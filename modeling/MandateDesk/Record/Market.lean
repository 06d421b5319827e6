import MandateDesk.Observation
import MandateDesk.Record.Position

/-!
# Records of market data

A quote has a mark price and may have a liquidation price. A snapshot shows
its version, the account, and quotes and positions by symbol.
-/

namespace MandateDesk

/-- The record of a quote. -/
def Quote.record (quote : Quote) : Json :=
  .object
    [("mark_price", Record.ofDecimal quote.mark),
      ("liquidation_price", Record.ofOption Record.ofDecimal quote.liquidation)]

/-- The quote that a record stands for. -/
def Quote.ofRecord? (value : Json) : Option Quote := do
  let parts ← Record.parts? ["mark_price", "liquidation_price"] value
  return ⟨← Record.required? "mark_price" Json.asDecimal? parts,
    ← Record.optional? "liquidation_price" Json.asDecimal? parts⟩

/-- The record of the use of a feed, whose reads never have to be repeated. -/
def Feed.record (feed : Feed) : Json :=
  .object
    [("version", Record.ofNat feed.version),
      ("reads", Record.ofNat feed.reads), ("retries", Record.ofNat 0)]

/-- The text of the version that a feed has. -/
def Feed.versionText (feed : Feed) : String :=
  "version: " ++ Text.decimalText feed.version

/-- What a reader shows of a feed. -/
def Feed.readerText (feed : Feed) : String :=
  "HotStateReader \x7b stats: HotStateStats \x7b " ++ feed.versionText ++
    ", reads: " ++ Text.decimalText feed.reads ++ ", retries: 0 \x7d \x7d"

/-- What a writer shows of a feed. -/
def Feed.writerText (feed : Feed) : String :=
  "HotStateWriter \x7b " ++ feed.versionText ++ " \x7d"

/-- The record of a snapshot. -/
def Snapshot.record (snapshot : Snapshot) : Json :=
  .object
    [("version", Record.ofNat snapshot.version),
      ("account",
        .object [("equity", Record.ofDecimal snapshot.account.equity)]),
      ("prices", Record.ofTable Quote.record snapshot.prices),
      ("positions", Record.ofTable Position.record snapshot.positions)]

end MandateDesk

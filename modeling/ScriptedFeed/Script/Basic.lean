/-!
# Scripts

A script is what a session plays: seed lines, which are in the feed from the start, and scheduled
lines, each of which becomes visible a while after it. The scheduled lines need not be listed in
the order in which they become visible.
-/

namespace ScriptedFeed

/-- A line that becomes visible a number of milliseconds after playback begins. -/
structure ScheduledLine where
  text : String
  delay : UInt64
deriving DecidableEq, Repr

/-- Whether one line is delivered no later than another. -/
def ScheduledLine.isDueBy (line other : ScheduledLine) : Bool :=
  line.delay ≤ other.delay

/-- What a session plays. -/
structure Script where
  /-- The lines that are visible from the start. -/
  seed : List String
  /-- The lines that become visible later, as they were authored. -/
  scheduled : List ScheduledLine
deriving DecidableEq, Repr

/-- Whether every line is due no later than the one after it. -/
def isInOrder : List ScheduledLine → Bool
  | [] => true
  | [_] => true
  | line :: next :: rest => line.isDueBy next && isInOrder (next :: rest)

namespace Script

/-- The script without lines. -/
def empty : Script :=
  ⟨[], []⟩

def isEmpty (script : Script) : Bool :=
  script.seed.isEmpty && script.scheduled.isEmpty

/-- The number of seed and scheduled lines together. -/
def lineCount (script : Script) : Nat :=
  script.seed.length + script.scheduled.length

/-- Whether the scheduled lines are authored in the order of their delays. -/
def isMonotonic (script : Script) : Bool :=
  isInOrder script.scheduled

/-- The delay of the last line to become visible. -/
def duration (script : Script) : UInt64 :=
  (script.scheduled.map ScheduledLine.delay).foldl max 0

/-- The scheduled lines in the order of delivery: by delay, and as authored where delays agree. -/
def deliveryOrder (script : Script) : List ScheduledLine :=
  script.scheduled.mergeSort ScheduledLine.isDueBy

/-- The script that is played when no other is named. -/
def landing : Script where
  seed := [
    "$ tesser-cli live run --strategy-config research/strategies/sma_cross.toml --exec paper",
    "[INFO] loaded strategy SmaCross (fast=5, slow=20) for BTCUSDT",
    "[INFO] connecting to wss://stream.bybit.com/v5/public/linear"]
  scheduled := [
    ⟨"[INFO] subscribed kline.1m.BTCUSDT orderbook.50.BTCUSDT", 800⟩,
    ⟨"[INFO] warmup complete: 20 candles buffered", 1600⟩,
    ⟨"[SIGNAL] SmaCross: fast 64212.4 crossed above slow 64180.9", 2400⟩,
    ⟨"[EXEC] submit BUY 0.010 BTCUSDT MARKET client_id=sma-0001", 3000⟩,
    ⟨"[FILLED] BUY 0.010 BTCUSDT @ 64215.0 fee 0.38 USDT", 4500⟩,
    ⟨"[WARN] drawdown 1.2% approaching risk limit 3.0%", 6000⟩,
    ⟨"[EXEC] submit SELL 0.010 BTCUSDT LIMIT 64480.0 client_id=sma-0002", 7500⟩,
    ⟨"[FILLED] SELL 0.010 BTCUSDT @ 64480.0 realized pnl +2.65 USDT", 8200⟩]

end Script

end ScriptedFeed

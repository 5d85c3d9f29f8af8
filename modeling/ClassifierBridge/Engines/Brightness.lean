import ClassifierBridge.Engine

/-!
# `ClassifierBridge.Engines.Brightness`: an engine that knows dark from bright

An engine without a model of its own, for trying out a host. It scores a frame
by the mean of its bytes and applies the configured threshold, lists and limit,
so that a host can see each of them at work. All of its arithmetic is that of
32-bit binary numbers.
-/

set_option autoImplicit false

namespace ClassifierBridge

/-- The configuration that decides about its answers. -/
structure Brightness where
  maxResults : Int32
  threshold : Option Single
  whitelist : List String
  blacklist : List String
  /-- whether the dark class has a display name -/
  named : Bool

namespace Brightness

/-- The length of the only model that this engine accepts. -/
def modelLength : Int64 := 1024

/-- A model is accepted by its file and its length, and the limits are kept as they are
given. -/
def create (config : EngineConfig) : Outcome EngineStatus Brightness :=
  if config.model.fd < 0 then .error ⟨.notFound, "Invalid file descriptor"⟩
  else if config.model.length != modelLength then
    .error ⟨.invalidArgument, "The model is not a valid Flatbuffer buffer"⟩
  else
    .ok ⟨config.maxResults, config.threshold, config.whitelist, config.blacklist,
      config.locale == "de"⟩

/-- The 32-bit number nearest to a whole number, which is a whole number again:
one whose significant bits fit the significand of the format. -/
def nearestWhole (n : Nat) : Nat :=
  let unit := twoPow (n.log2 - BinaryFormat.single.fractionBits)
  nearestQuotient n unit * unit

/-- The sum of the first `count` bytes, rounded after every addition. Bytes are
whole numbers, so the partial sums are, too. -/
def byteSum (data : ByteArray) (count : Nat) : Single :=
  -- Whole numbers that fit the format are exact in it, so no step needs more than this.
  let sum : Nat := data.foldl (fun sum b => nearestWhole (sum + b.toNat)) 0 0 count
  Binary.ofInt sum

/-- The mean of the first `count` bytes, scaled to the unit interval. -/
def mean (data : ByteArray) (count : Nat) : Single :=
  if count = 0 then Binary.zero false
  else (byteSum data count).div ((Binary.ofInt count).mul (Binary.ofInt 255))

/-- Five hundredths. -/
def noiseScore : Single := Binary.round false (mkRat 1 20)

/-- The three categories before anything is left out, best first. -/
def scored (e : Brightness) (brightness : Single) : List Category :=
  [⟨0, (Binary.ofInt 1).sub brightness, "dark", if e.named then "Dunkel" else ""⟩,
    ⟨1, brightness, "bright", ""⟩,
    ⟨2, noiseScore, "noise", ""⟩].mergeSort
      fun a b => decide (b.score.totalKey ≤ a.score.totalKey)

/-- Whether the lists and the threshold let a category through. -/
def keeps (e : Brightness) (c : Category) : Bool :=
  (e.whitelist.isEmpty || e.whitelist.contains c.className)
    && !e.blacklist.contains c.className
    && match e.threshold with
      | none => true
      | some least => least.le c.score

/-- At most the configured number of categories. -/
def limited (e : Brightness) (categories : List Category) : List Category :=
  if 0 ≤ e.maxResults then categories.take e.maxResults.toInt.toNat else categories

/-- A complete frame is scored by its mean, and one that is too short is refused with both
sizes. -/
def classify (e : Brightness) (frame : Frame) : Outcome EngineStatus Classification :=
  if frame.isComplete then
    let brightness := mean frame.data frame.expectedLength
    .ok ⟨[⟨0, e.limited ((e.scored brightness).filter e.keeps)⟩,
      ⟨1, [⟨0, Binary.ofInt 1, "frame", ""⟩]⟩]⟩
  else
    .error ⟨.invalidArgument, "Frame buffer has " ++ Nat.repr frame.data.size
      ++ " bytes, expected " ++ Nat.repr frame.expectedLength⟩

end Brightness

end ClassifierBridge

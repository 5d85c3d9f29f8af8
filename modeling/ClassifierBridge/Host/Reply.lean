import ClassifierBridge.Classification
import ClassifierBridge.Host.Text

/-!
# `ClassifierBridge.Host.Reply`: what the host is handed back

A reply opens with a `Verdict`: a success without a message or a failure with
one, told apart by a flag and by the kind of failure, zero for none. The message
of a failure is the whole message of the `Failure`, or a fixed one if the host
cannot read that. A reply never holds part of a result: a label that the host
cannot read turns the whole reply into a failure.
-/

set_option autoImplicit false

namespace ClassifierBridge

/-- How a request went. -/
structure Verdict where
  success : Bool
  /-- the number of the kind of failure, zero on success -/
  errorKind : Int32
  errorMessage : Option CString

namespace Verdict

/-- Success carries no kind and no message. -/
def good : Verdict := ⟨true, 0, none⟩

/-- A failure of some kind. The host reads the fallback instead of a message
with a NUL. -/
def bad (fallback : String) (kind : Int32) (message : String) : Verdict :=
  ⟨false, kind, some (CString.orFallback message fallback)⟩

/-- Kind and message of a failure. -/
def ofFailure (fallback : String) (failure : Failure) : Verdict :=
  bad fallback failure.kind.code failure.message

end Verdict

/-- The number that stands for no handle. -/
def noHandle : UInt64 := 0

/-- The answer to a request for a classifier. -/
structure InitReply where
  verdict : Verdict
  handle : UInt64

namespace InitReply

/-- What the host reads instead of a message with a NUL. -/
def fallback : String := "Error occurred when initializing classifier"

/-- The handle, or the failure with no handle. -/
def ofResult : Except Failure UInt64 → InitReply
  | .ok handle => ⟨.good, handle⟩
  | .error failure => ⟨.ofFailure fallback failure, noHandle⟩

end InitReply

/-- A labelled score for the host. -/
structure ReplyCategory where
  label : CString
  score : Single

/-- The labelled scores of one output head for the host. -/
structure ReplyHead where
  categories : HostArray ReplyCategory
  head : Int32

/-- The answer to a request for a classification. -/
structure ClassifyReply where
  verdict : Verdict
  heads : HostArray ReplyHead

namespace ClassifyReply

/-- What the host reads instead of a message with a NUL. -/
def fallback : String := "Error occurred when classifying the image"

/-- The labelled scores of one head, if the host can read all labels. -/
def categories : List LabelledScore → Except Nat (List ReplyCategory)
  | [] => .ok []
  | c :: rest =>
    match CString.ofText c.label with
    | .error position => .error position
    | .ok label => (categories rest).map (⟨label, c.score⟩ :: ·)

/-- The records of all heads, if the host can read all labels. The first label
that it cannot read decides. -/
def headsOf : List HeadRecord → Except Nat (List ReplyHead)
  | [] => .ok []
  | record :: rest =>
    match categories record.categories with
    | .error position => .error position
    | .ok cs => (headsOf rest).map (⟨HostArray.ofList cs, record.head⟩ :: ·)

/-- A failed classification has no heads. -/
def ofFailure (failure : Failure) : ClassifyReply :=
  ⟨.ofFailure fallback failure, ⟨none, 0⟩⟩

/-- All heads, or the failure for the first label that no C string can hold. -/
def ofRecords (records : List HeadRecord) : ClassifyReply :=
  -- All labels are checked before anything is handed out.
  match headsOf records with
  | .ok heads => ⟨.good, HostArray.ofList heads⟩
  | .error position => ofFailure (.invalidArgument (.nulInLabel position))

/-- What the host gets for a result. -/
def ofResult : Except Failure (List HeadRecord) → ClassifyReply
  | .ok records => ofRecords records
  | .error failure => ofFailure failure

end ClassifyReply

end ClassifierBridge

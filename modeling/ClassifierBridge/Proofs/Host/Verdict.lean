import ClassifierBridge.Engines.Sample
import ClassifierBridge.Proofs.Host.Answer
import ClassifierBridge.Proofs.Host.Handles

/-!
# `ClassifierBridge.Proofs.Host.Verdict`: a reply means one thing only

A reply to an init or to a classify is a success or a failure, and all of its parts agree on
which. A failure that reaches the host has the kind of the failure inside and its whole
message, or the fixed message of the reply where the host could not read the whole one: a
text with a NUL would end there, and the host would take what comes before for all of it.

* `Verdict.Succeeded`, `Verdict.Reports`: the two kinds of verdict, in full.
* `HostArray.Sound`: a null pointer goes with the length zero, and with no other.
* `InitReply.Tells`, `ClassifyReply.Tells`: a reply that agrees with the result inside.
* `InitReply.tells_ofResult`, `ClassifyReply.tells_ofResult`: every reply does, whatever the
  result is.
* `replies_tell`: all replies of all sessions, while there are handles left.
-/

set_option autoImplicit false

namespace ClassifierBridge

/-! ### What a reply has to say -/

/-- The verdict on a request that went well. -/
structure Verdict.Succeeded (v : Verdict) : Prop where
  success : v.success = true
  errorKind : v.errorKind = 0
  errorMessage : v.errorMessage = none

/-- The verdict on a request that failed: the kind of the failure, which is never the zero
of a success, and a message, which the host reads in memory up to a zero byte, whatever lies
behind it. It finds the whole message of the failure, or the fallback if that has a NUL. -/
structure Verdict.Reports (v : Verdict) (fallback : String) (failure : Failure) : Prop where
  success : v.success = false
  errorKind : v.errorKind = failure.kind.code
  errorKind_mem : v.errorKind ∈ [1, 2, 3]
  errorMessage : ∃ message, v.errorMessage = some message
    ∧ ∀ behind, HostText.read (some (message.memory ++ behind))
      = .ok (if '\x00' ∈ failure.message.toList then fallback else failure.message)

/-- The pointer is null if and only if there is nothing behind it, and otherwise there is as
much as the length says. -/
structure HostArray.Sound {α : Type} (a : HostArray α) : Prop where
  null_iff : a.items = none ↔ a.length = 0
  length_eq : ∀ items, a.items = some items → items.length = a.length

/-- The reply to an init agrees with its result: a handle, which is not zero, or a failure
and no handle. -/
inductive InitReply.Tells : Except Failure UInt64 → InitReply → Prop where
  | success {handle : UInt64} {reply : InitReply} (hverdict : reply.verdict.Succeeded)
      (hsame : reply.handle = handle) (hnonzero : reply.handle ≠ 0) : Tells (.ok handle) reply
  | failure {failure : Failure} {reply : InitReply}
      (hverdict : reply.verdict.Reports "Error occurred when initializing classifier" failure)
      (hnone : reply.handle = 0) : Tells (.error failure) reply

/-- The reply is a failure with no part of a result. -/
structure ClassifyReply.Fails (reply : ClassifyReply) (failure : Failure) : Prop where
  verdict : reply.verdict.Reports "Error occurred when classifying the image" failure
  heads : reply.heads.items = none ∧ reply.heads.length = 0

/-- The reply to a classify agrees with its result: arrays that can be walked, with labels
that can be read, or a failure, which may be that a label of the result cannot be read. -/
inductive ClassifyReply.Tells : Except Failure (List HeadRecord) → ClassifyReply → Prop where
  | success {records : List HeadRecord} {reply : ClassifyReply}
      (hreadable : firstNul? (labelsOf records) = none) (hverdict : reply.verdict.Succeeded)
      (hheads : reply.heads.Sound) (hcategories : ∀ head ∈ reply.heads.read, head.categories.Sound)
      (hlabels : ∀ head ∈ reply.heads.read, ∀ category ∈ head.categories.read, ∀ behind,
        HostText.read (some (category.label.memory ++ behind)) = .ok category.label.text) :
      Tells (.ok records) reply
  | nulInLabel {records : List HeadRecord} {position : Nat} {reply : ClassifyReply}
      (hfirst : firstNul? (labelsOf records) = some position)
      (hfails : reply.Fails (.invalidArgument (.nulInLabel position))) : Tells (.ok records) reply
  | failure {failure : Failure} {reply : ClassifyReply} (hfails : reply.Fails failure) :
      Tells (.error failure) reply

/-! ### Every reply says it -/

/-- The verdict on a success has no kind and no message. -/
theorem Verdict.succeeded_good : Verdict.good.Succeeded := ⟨rfl, rfl, rfl⟩

/-- A failure keeps its kind, whatever is in its message. -/
theorem Verdict.reports_ofFailure {fallback : String} (hfallback : '\x00' ∉ fallback.toList)
    (failure : Failure) : (Verdict.ofFailure fallback failure).Reports fallback failure := by
  refine ⟨rfl, rfl, ?_, _, rfl, fun behind => ?_⟩
  · show failure.kind.code ∈ _
    cases failure.kind <;> decide
  · rw [CString.read_memory, CString.text_orFallback _ hfallback]

/-- An array that is made of a list can be walked by its length. -/
theorem HostArray.sound_ofList {α : Type} (items : List α) : (ofList items).Sound := by
  cases items with
  | nil => exact ⟨iff_of_true rfl rfl, nofun⟩
  | cons item items =>
      refine ⟨iff_of_false nofun nofun, fun others h => ?_⟩
      cases h
      rfl

/-- The reply to an init tells its result, if the handle is not zero. -/
theorem InitReply.tells_ofResult {result : Except Failure UInt64}
    (h : ∀ handle, result = .ok handle → handle ≠ 0) : Tells result (ofResult result) := by
  cases result with
  | error failure => exact .failure (Verdict.reports_ofFailure (by decide) failure) rfl
  | ok handle => exact .success Verdict.succeeded_good rfl (h handle rfl)

namespace ClassifyReply

/-- A failed classification has nothing in it but its failure. -/
theorem fails_ofFailure (failure : Failure) : (ofFailure failure).Fails failure :=
  ⟨Verdict.reports_ofFailure (by decide) failure, rfl, rfl⟩

/-- Each head of a result is put in an array of its own. -/
theorem categories_sound_of_headsOf {records : List HeadRecord} {heads : List ReplyHead}
    (h : headsOf records = .ok heads) : ∀ head ∈ heads, head.categories.Sound := by
  -- The induction is on the records, each of which gets its array when it is reached.
  induction records generalizing heads with
  | nil =>
      cases h
      exact nofun
  | cons record rest ih =>
      unfold headsOf at h
      split at h
      · cases h
      · next cs hcs =>
          cases hrest : headsOf rest with
          | error position =>
              rw [hrest] at h
              cases h
          | ok others =>
              rw [hrest] at h
              cases h
              intro head hhead
              rcases List.mem_cons.mp hhead with rfl | hother
              · exact HostArray.sound_ofList cs
              · exact ih hrest head hother

/-- The reply to a classify tells its result. -/
theorem tells_ofResult (result : Except Failure (List HeadRecord)) :
    Tells result (ofResult result) := by
  cases result with
  | error failure => exact .failure (fails_ofFailure failure)
  | ok records =>
      show Tells (.ok records) (ofRecords records)
      -- A result is told in full, unless one of its labels has a NUL.
      cases hnul : firstNul? (labelsOf records) with
      | some position =>
          rw [ofRecords_of_firstNul? hnul]
          exact .nulInLabel hnul (fails_ofFailure _)
      | none =>
          have hspec := headsOf_spec records
          rw [hnul] at hspec
          obtain ⟨heads, hheads, -⟩ := hspec
          unfold ofRecords
          rw [hheads]
          refine .success hnul Verdict.succeeded_good (HostArray.sound_ofList heads) ?_
            fun _ _ category _ behind => category.label.read_memory behind
          rw [HostArray.read_ofList]
          exact categories_sound_of_headsOf hheads

end ClassifyReply

/-- What the reader of a document quotes of it stands in the message of the failure. -/
theorem Failure.nul_mem_message {text : List Char} {fault : Json.Fault}
    (h : '\x00' ∈ fault.message Field.knownKeys text) :
    '\x00' ∈ (Failure.config (.unreadable text fault)).message.toList := by
  show '\x00' ∈ ("configuration error: " ++ ConfigError.message (.unreadable text fault)).toList
  rw [String.toList_append, List.mem_append]
  right
  rw [ConfigError.message, String.toList_ofList]
  exact h

namespace HostSession

variable {F E : Type} (family : EngineFamily F E)

/-- The next handle is not zero while there are handles left. -/
theorem Tracks.next_ne_zero {t : History F} {r : Registry E} (h : Tracks t r) : r.next ≠ 0 := by
  intro hzero
  have hcount := h.next_eq
  rw [hzero, UInt64.toNat_zero] at hcount
  omega

/-- Take any run from a registry that is new, with fewer inits that went well than there are
handles, and any call after it. The reply to an init is a success with a handle that is not
zero, no message and the kind zero, or a failure with no handle; the reply to a classify is a
success with arrays and labels that the host can walk and read, or a failure with no array.
A failure has the kind of the failure inside, which is one, two or three, and its message in
full, or the fixed message of the reply if the whole one has a NUL; and nothing else decides
between the two, be it an engine, a panic or a text of the host that put the NUL there. -/
theorem replies_tell {s : HostSession F E} (hnext : s.registry.next = 1)
    (hentries : s.registry.entries = []) (calls : List (HostCall F))
    (hfew : (s.history family calls).issued.length < 2 ^ 64 - 1) :
    let now := s.after family calls
    (∀ model source, ∃ reply, (now.step family (.init model source)).1 = .init reply
        ∧ InitReply.Tells (now.init family model source).1 reply)
      ∧ ∀ handle pixels size, ∃ reply,
          (now.step family (.classify handle pixels size)).1 = .classify reply
            ∧ ClassifyReply.Tells (now.classify family handle pixels size).1 reply := by
  intro now
  have htracks := tracks_after family hnext hentries calls hfew
  refine ⟨fun model source => ⟨_, rfl, ?_⟩, fun handle pixels size => ⟨_, rfl, ?_⟩⟩
  · refine InitReply.tells_ofResult fun handle hok => ?_
    -- The only handle that an init hands out is the next one.
    rcases init_cases family now model source with
      ⟨_, herror, -⟩ | ⟨_, _, _, -, -, -, hnew, -⟩
    · rw [herror] at hok
      cases hok
    · rw [hnew] at hok
      cases hok
      exact htracks.next_ne_zero
  · exact ClassifyReply.tells_ofResult _

/-- A key of a document with a NUL, an engine that puts one into its status, and one that
puts it into the reason of a panic: the kinds are kept, the texts are not. -/
theorem replies_tell_nul :
    -- The text is an object with the key "a\u0000" and the value 1.
    let document : SettingsSource := .document
      (some [0x7B, 0x22, 0x61, 0x5C, 0x75, 0x30, 0x30, 0x30, 0x30, 0x22, 0x3A, 0x31, 0x7D])
    let script : Script := ⟨.ok (), [.error ⟨.notFound, "a\x00b"⟩, .panic (.text "\x00")]⟩
    let classify : HostCall SampleFactory := .classify 1 ⟨none, 0⟩ ⟨0, 0⟩
    let calls : List (HostCall SampleFactory) :=
      [.install (.script script), .init {} (.structure none)]
    let s : HostSession SampleFactory SampleEngine := {}
    let now := s.after sampleFamily calls
    let later := s.after sampleFamily (calls ++ [classify])
    let shown (v : Verdict) := v.errorMessage.map fun message => HostText.read (some message.memory)
    (s.registry.next = 1 ∧ s.registry.entries = []
        ∧ (s.history sampleFamily calls).issued.length < 2 ^ 64 - 1
        ∧ (s.history sampleFamily (calls ++ [classify])).issued.length < 2 ^ 64 - 1)
      ∧ (∃ reply, (now.step sampleFamily (.init {} document)).1 = .init reply
        ∧ reply.verdict.errorKind = 2
        ∧ shown reply.verdict = some (.ok "Error occurred when initializing classifier"))
      ∧ (∃ reply, (now.step sampleFamily classify).1 = .classify reply
        ∧ reply.verdict.errorKind = 1
        ∧ shown reply.verdict = some (.ok "Error occurred when classifying the image"))
      ∧ ∃ reply, (later.step sampleFamily classify).1 = .classify reply
        ∧ reply.verdict.errorKind = 1
        ∧ shown reply.verdict = some (.ok "Error occurred when classifying the image") := by
  intro document script classify calls s now later shown
  let text : List Char := ['\x7b', '"', 'a', '\\', 'u', '0', '0', '0', '0', '"', ':', '1', '\x7d']
  have hfew : (s.history sampleFamily calls).issued.length < 2 ^ 64 - 1 := by
    rw [show (s.history sampleFamily calls).issued = [1] by decide]
    decide
  have hfew' : (s.history sampleFamily (calls ++ [classify])).issued.length < 2 ^ 64 - 1 := by
    rw [show (s.history sampleFamily (calls ++ [classify])).issued = [1] by decide]
    decide
  -- What a host reads of a failure whose message has a NUL.
  have hshown {v : Verdict} {fallback : String} {failure : Failure}
      (h : v.Reports fallback failure) (hnul : '\x00' ∈ failure.message.toList) :
      v.errorKind = failure.kind.code ∧ shown v = some (.ok fallback) := by
    obtain ⟨message, hmessage, hread⟩ := h.errorMessage
    have hwhole := hread []
    rw [List.append_nil, if_pos hnul] at hwhole
    exact ⟨h.errorKind, by simp only [shown, hmessage, Option.map_some, hwhole]⟩
  obtain ⟨hinit, hclassify⟩ := replies_tell sampleFamily (s := s) rfl rfl calls hfew
  obtain ⟨-, hagain⟩ := replies_tell sampleFamily (s := s) rfl rfl (calls ++ [classify]) hfew'
  refine ⟨⟨rfl, rfl, hfew, hfew'⟩, ?_, ?_, ?_⟩
  · obtain ⟨reply, hreply, htells⟩ := hinit {} document
    obtain ⟨fault, hfault, hnul⟩ : ∃ fault, HostForm.read text = .error fault
        ∧ '\x00' ∈ fault.message Field.knownKeys text := by
      have hcheck : (match HostForm.read text with
          | .error fault => decide ('\x00' ∈ fault.message Field.knownKeys text)
          | .ok _ => false) = true := by decide +kernel
      split at hcheck
      · next fault hfault => exact ⟨fault, hfault, of_decide_eq_true hcheck⟩
      · cases hcheck
    have hread : document.read = .error (.config (.unreadable text fault)) := by
      show (Settings.ofJson (String.ofList text)).mapError Failure.config = _
      rw [Settings.ofJson, String.toList_ofList, hfault]
      rfl
    have hresult : (now.init sampleFamily {} document).1
        = .error (.config (.unreadable text fault)) := by
      rw [init, hread]
    rw [hresult] at htells
    cases htells with
    | failure hverdict => exact ⟨reply, hreply, hshown hverdict (Failure.nul_mem_message hnul)⟩
  · obtain ⟨reply, hreply, htells⟩ := hclassify 1 ⟨none, 0⟩ ⟨0, 0⟩
    have hresult : (now.classify sampleFamily 1 ⟨none, 0⟩ ⟨0, 0⟩).1
        = .error (.classification ⟨.notFound, "a\x00b"⟩) := rfl
    rw [hresult] at htells
    cases htells with
    | failure hfails => exact ⟨reply, hreply, hshown hfails.verdict (by decide)⟩
  · obtain ⟨reply, hreply, htells⟩ := hagain 1 ⟨none, 0⟩ ⟨0, 0⟩
    have hresult : (later.classify sampleFamily 1 ⟨none, 0⟩ ⟨0, 0⟩).1
        = .error (.classification ⟨.internal, "engine panicked: \x00"⟩) := rfl
    rw [hresult] at htells
    cases htells with
    | failure hfails => exact ⟨reply, hreply, hshown hfails.verdict (by decide)⟩

end HostSession

end ClassifierBridge

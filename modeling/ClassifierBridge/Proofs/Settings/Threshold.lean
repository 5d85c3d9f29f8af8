import ClassifierBridge.Proofs.Json.ReadBack
import ClassifierBridge.Proofs.Settings.RoundTrip

/-!
# `ClassifierBridge.Proofs.Settings.Threshold`: a threshold keeps its bits

The text of settings is read as the settings again, and a finite threshold comes
back with the same bits: zeros keep their signs, and neither the numbers at the
ends of the range nor those whose digits come close to a midpoint are read as a
neighbour.

* `Json.denotes_ofSingle`: what the text of a threshold denotes.
* `Settings.ofJson_toJson_threshold`: settings with a finite threshold survive.
-/

set_option autoImplicit false

namespace ClassifierBridge

open Json

/-- The text of a finite threshold denotes it. -/
theorem Json.denotes_ofSingle {x : Single} (hfinite : x.isFinite = true) :
    DenotesOptionalSingle (.ofSingle x) (some x) := by
  obtain ⟨n, hvalue, hsame⟩ := toSingle_writtenLiteral hfinite
  rw [Tree.ofSingle, if_pos hfinite]
  exact .inr ⟨_, n, rfl, hvalue, by rw [hsame]⟩

namespace Settings

/-- A finite threshold is read with the bits that were written, and the settings
around it are the same. -/
theorem ofJson_toJson_threshold (o : Settings) {x : Single} (hgiven : o.threshold = some x)
    (hfinite : x.isFinite = true) :
    ∃ y, ofJson o.toJson = .ok { o with threshold := some y } ∧ y.toBits = x.toBits := by
  have hwritten : o.hostForm.DenotesThreshold (some x) := by
    unfold HostForm.DenotesThreshold hostForm
    dsimp only
    rw [hgiven]
    exact denotes_ofSingle hfinite
  have hread := HostForm.read_toJson_of_denotesThreshold hwritten
  have hended : endOfText [] = .ok () := endOfText_eq_ok_iff.mpr blanks_nil
  refine ⟨x, ?_, rfl⟩
  unfold ofJson toJson
  rw [hread]
  simp only [hostForm, HostForm.settings?, hgiven, Option.isSome_some, hended]

/-- The smallest number below zero, and a number whose digits come closer to a
midpoint than almost all others. -/
theorem ofJson_toJson_threshold_least :
    (∃ y, ofJson (toJson { threshold := some (Binary.ofBits 0x80000001) })
        = .ok { threshold := some y } ∧ y.toBits = 0x80000001)
      ∧ ∃ y, ofJson (toJson { threshold := some (Binary.ofBits 0x15ae43fd) })
        = .ok { threshold := some y } ∧ y.toBits = 0x15ae43fd :=
  ⟨ofJson_toJson_threshold { threshold := some (Binary.ofBits 0x80000001) } rfl (by decide),
    ofJson_toJson_threshold { threshold := some (Binary.ofBits 0x15ae43fd) } rfl (by decide)⟩

end Settings

end ClassifierBridge

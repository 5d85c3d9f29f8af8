import ClassifierBridge.Host.Text

/-!
# `ClassifierBridge.Host.Settings`: settings as the host's structure

Hosts that do not write JSON hand over a structure. `HostSettings.read` copies
it into `Settings`: the locale first, then the list of names to keep, then the
list of names to drop; the first fault decides.
-/

set_option autoImplicit false

namespace ClassifierBridge

/-- The settings as a structure of the host. The threshold is looked at only if
the flag is set. -/
structure HostSettings where
  /-- null for the default -/
  locale : HostText := none
  maxResults : Int32 := -1
  thresholdIsSet : Bool := false
  threshold : Single := Binary.zero false
  allow : HostArray HostText := ⟨none, 0⟩
  deny : HostArray HostText := ⟨none, 0⟩

/-- The settings that the structure describes. -/
def HostSettings.read (s : HostSettings) : Except ArgumentFault Settings := do
  let locale ← (HostText.read? s.locale).mapError .locale
  let allow ← (readTexts 0 s.allow.read).mapError (.names .allow)
  let deny ← (readTexts 0 s.deny.read).mapError (.names .deny)
  return {
    locale := locale.getD ({} : Settings).locale
    maxResults := s.maxResults
    threshold := if s.thresholdIsSet then some s.threshold else none
    allow := allow
    deny := deny }

end ClassifierBridge

import ClassifierBridge.Json.Document
import ClassifierBridge.Settings.Basic

/-!
# `ClassifierBridge.Settings.Writer`: settings written as JSON

Settings are written in the host form, which leaves a threshold out unless there
is one. An engine that takes its configuration as text receives the same values
under its own names.
-/

set_option autoImplicit false

namespace ClassifierBridge

open Json

/-- The JSON text of a host form. -/
def HostForm.toJson (form : HostForm) : String :=
  String.ofList (writeObject
    ([writeMember "displayNamesLocale" (writeString form.locale),
      writeMember "maxResults" (writeInteger form.maxResults.toInt),
      writeMember "isScoreThresholdSet" (writeBool form.thresholdIsSet)]
      ++ optionalMember "scoreThreshold" (form.threshold.map writeSingle)
      ++ [writeMember "classNameAllowList" (writeStrings form.allow),
        writeMember "classNameDenyList" (writeStrings form.deny)]))

/-- The JSON text of settings, in the host form. -/
def Settings.toJson (s : Settings) : String := s.hostForm.toJson

/-- The JSON text of the place of a model. -/
def ModelRegion.json (model : ModelRegion) : List Char :=
  writeObject
    [writeMember "fd" (writeInteger model.fd.toInt),
      writeMember "length" (writeInteger model.length.toInt),
      writeMember "offset" (writeInteger model.offset.toInt)]

/-- The JSON text of an engine's configuration. -/
def EngineConfig.toJson (config : EngineConfig) : String :=
  String.ofList (writeObject
    ([writeMember "model_file_with_metadata"
        (writeObject [writeMember "file_descriptor_meta" config.model.json]),
      writeMember "display_names_locale" (writeString config.locale),
      writeMember "max_results" (writeInteger config.maxResults.toInt)]
      ++ optionalMember "score_threshold" (config.threshold.map writeSingle)
      ++ [writeMember "class_name_whitelist" (writeStrings config.whitelist),
        writeMember "class_name_blacklist" (writeStrings config.blacklist)]))

end ClassifierBridge

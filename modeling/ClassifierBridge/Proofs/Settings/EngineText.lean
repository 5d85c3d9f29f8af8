import ClassifierBridge.Proofs.Json.Unambiguous
import ClassifierBridge.Proofs.Settings.Threshold

/-!
# `ClassifierBridge.Proofs.Settings.EngineText`: the text tells the configuration

An engine may take its configuration as text, and nothing reads that text back
here. It still says which configuration it was written for: the text is the
document of one tree, `EngineConfig.tree`, and the tree has every field in a form
that gives the field back. Only a threshold without a JSON number is lost, since
all of those are written as `null`, which no other threshold is.

* `EngineConfig.document_toJson`: what the text spells.
* `EngineConfig.eq_or_of_tree_eq`: how far the tree determines the configuration.
* `EngineConfig.toJson_identifies`: equal texts, equal configurations.
-/

set_option autoImplicit false

namespace ClassifierBridge

open Json

/-! ### Trees that give back what they were made from -/

namespace Json

/-- The tree of a string gives the string back. -/
theorem Tree.ofString_inj {text text' : String} :
    Tree.ofString text = .ofString text' ↔ text = text' := by
  rw [Tree.ofString, Tree.ofString, Tree.string.injEq, String.toList_inj]

/-- A literal spells one integer. -/
theorem integerLiteral_inj {n n' : Int} : integerLiteral n = integerLiteral n' ↔ n = n' := by
  refine ⟨fun hsame => ?_, fun hsame => congrArg integerLiteral hsame⟩
  have hvalue := (spells_integerLiteral n).2.2.2
  rw [hsame] at hvalue
  exact hvalue.trans (spells_integerLiteral n').2.2.2.symm

/-- So does the tree of a list of strings, with the order and the repetitions in it. -/
theorem listOfStrings_inj {texts texts' : List String} :
    Tree.list (texts.map .ofString) = .list (texts'.map .ofString) ↔ texts = texts' := by
  rw [Tree.list.injEq]
  exact List.map_inj_right fun _ _ => Tree.ofString_inj.mp

/-- A finite threshold is read back from its literal, so no two share one. -/
theorem Tree.eq_of_ofSingle_eq {x x' : Single} (hsame : Tree.ofSingle x = .ofSingle x') :
    x.isFinite = x'.isFinite ∧ (x.isFinite = true → x = x') := by
  unfold Tree.ofSingle at hsame
  split at hsame
  · next hfinite =>
      split at hsame
      · next hfinite' =>
          refine ⟨hfinite.trans hfinite'.symm, fun _ => ?_⟩
          obtain ⟨n, hvalue, hback⟩ := toSingle_writtenLiteral hfinite
          obtain ⟨n', hvalue', hback'⟩ := toSingle_writtenLiteral hfinite'
          rw [Tree.number.inj hsame, hvalue'] at hvalue
          rw [← hback, ← hback', Except.ok.inj hvalue]
      · cases hsame
  · next hinfinite =>
      split at hsame
      · cases hsame
      · next hinfinite' =>
          rw [Bool.not_eq_true] at hinfinite hinfinite'
          exact ⟨hinfinite.trans hinfinite'.symm,
            fun hfinite => by rw [hinfinite] at hfinite; cases hfinite⟩

end Json

/-! ### The place of the model -/

namespace ModelRegion

/-- The tree of the place of a model. -/
def tree (model : ModelRegion) : Tree :=
  .object [("fd".toList, .number (integerLiteral model.fd.toInt)),
    ("length".toList, .number (integerLiteral model.length.toInt)),
    ("offset".toList, .number (integerLiteral model.offset.toInt))]

/-- The text of the place of a model spells its tree. -/
theorem spelling_json (model : ModelRegion) : Spelling model.json model.tree := by
  refine spelling_writeMembers
    [("fd", writeInteger model.fd.toInt, .number (integerLiteral model.fd.toInt)),
      ("length", writeInteger model.length.toInt, .number (integerLiteral model.length.toInt)),
      ("offset", writeInteger model.offset.toInt, .number (integerLiteral model.offset.toInt))] ?_
  simp only [List.forall_mem_cons]
  exact ⟨spelling_writeInteger _, spelling_writeInteger _, spelling_writeInteger _, nofun⟩

/-- The tree of a place has all three of its numbers. -/
theorem tree_inj {model model' : ModelRegion} : model.tree = model'.tree ↔ model = model' := by
  refine ⟨fun hsame => ?_, fun hsame => congrArg tree hsame⟩
  obtain ⟨fd, length, offset⟩ := model
  obtain ⟨fd', length', offset'⟩ := model'
  simp only [tree, Tree.object.injEq, List.cons.injEq, Prod.mk.injEq, Tree.number.injEq,
    integerLiteral_inj, Int32.toInt_inj, Int64.toInt_inj, true_and, and_true] at hsame
  obtain ⟨rfl, rfl, rfl⟩ := hsame
  rfl

end ModelRegion

/-! ### Configurations -/

namespace EngineConfig

/-- The threshold is unset or a finite number. -/
def FiniteThreshold (config : EngineConfig) : Prop :=
  ∀ x, config.threshold = some x → x.isFinite = true

/-- The members of the object that is written for a configuration, each with the
text of its value. -/
def writtenMembers (config : EngineConfig) : List (String × (List Char × Tree)) :=
  [("model_file_with_metadata",
      writeObject [writeMember "file_descriptor_meta" config.model.json],
      .object [("file_descriptor_meta".toList, config.model.tree)]),
    ("display_names_locale", writeString config.locale, .ofString config.locale),
    ("max_results", writeInteger config.maxResults.toInt,
      .number (integerLiteral config.maxResults.toInt))]
    ++ (config.threshold.map fun x => ("score_threshold", writeSingle x, Tree.ofSingle x)).toList
    ++ [("class_name_whitelist", writeStrings config.whitelist,
        .list (config.whitelist.map .ofString)),
      ("class_name_blacklist", writeStrings config.blacklist,
        .list (config.blacklist.map .ofString))]

/-- The tree of a configuration. -/
def tree (config : EngineConfig) : Tree :=
  .object (config.writtenMembers.map fun m => (m.1.toList, m.2.2))

/-- The text of a configuration is the document of its tree. -/
theorem document_toJson (config : EngineConfig) : Document config.toJson.toList config.tree := by
  have hmodel : Spelling (writeObject [writeMember "file_descriptor_meta" config.model.json])
      (.object [("file_descriptor_meta".toList, config.model.tree)]) := by
    refine spelling_writeMembers
      [("file_descriptor_meta", config.model.json, config.model.tree)] ?_
    simp only [List.forall_mem_cons]
    exact ⟨config.model.spelling_json, nofun⟩
  -- Every member has the text of its own value, the threshold only where there is one.
  have hspelled := spelling_writeMembers config.writtenMembers fun m hmem => by
    rcases List.mem_append.mp hmem with hfront | hlists
    · rcases List.mem_append.mp hfront with hfront | hthreshold
      · simp only [List.mem_cons, List.not_mem_nil, or_false] at hfront
        rcases hfront with rfl | rfl | rfl
        · exact hmodel
        · exact spelling_writeString _
        · exact spelling_writeInteger _
      · rw [Option.mem_toList, Option.map_eq_some_iff] at hthreshold
        obtain ⟨x, -, rfl⟩ := hthreshold
        exact spelling_ofSingle x
    · simp only [List.mem_cons, List.not_mem_nil, or_false] at hlists
      rcases hlists with rfl | rfl
      · exact spelling_writeStrings _
      · exact spelling_writeStrings _
  have htext : config.toJson.toList
      = writeObject (config.writtenMembers.map fun m => writeMember m.1 m.2.1) := by
    rw [toJson, String.toList_ofList, writtenMembers]
    cases config.threshold with
    | none => rfl
    | some x => rfl
  rw [htext]
  exact hspelled.document

/-- The tree of a configuration has all of it but the value of a threshold that
is not finite. -/
theorem eq_or_of_tree_eq {config config' : EngineConfig} (hsame : config.tree = config'.tree) :
    config = config' ∨ ¬ config.FiniteThreshold ∧ ¬ config'.FiniteThreshold := by
  obtain ⟨model, locale, maxResults, threshold, whitelist, blacklist⟩ := config
  obtain ⟨model', locale', maxResults', threshold', whitelist', blacklist'⟩ := config'
  simp only [tree, writtenMembers, List.map_append, Tree.object.injEq] at hsame
  -- The members before and after the threshold are as many in either tree.
  obtain ⟨hfront, hlists⟩ := List.append_inj' hsame
    (by simp only [List.length_map, List.length_cons])
  obtain ⟨hfront, hthresholds⟩ := List.append_inj hfront
    (by simp only [List.length_map, List.length_cons])
  simp only [List.map_cons, List.map_nil, List.cons.injEq, Prod.mk.injEq, true_and, and_true,
    Tree.object.injEq, ModelRegion.tree_inj, Tree.ofString_inj, Tree.number.injEq,
    integerLiteral_inj, Int32.toInt_inj, listOfStrings_inj] at hfront hlists
  obtain ⟨rfl, rfl, rfl⟩ := hfront
  obtain ⟨rfl, rfl⟩ := hlists
  -- The threshold is what is left, and one of them may be missing.
  cases threshold with
  | none =>
      cases threshold' with
      | none => exact .inl rfl
      | some x' => cases hthresholds
  | some x =>
      cases threshold' with
      | none => cases hthresholds
      | some x' =>
          simp only [Option.map_some, Option.toList_some, List.map_cons, List.map_nil,
            List.cons.injEq, Prod.mk.injEq, true_and, and_true] at hthresholds
          obtain ⟨halike, heq⟩ := Tree.eq_of_ofSingle_eq hthresholds
          cases hfinite : x.isFinite with
          | true => exact .inl (by rw [heq hfinite])
          | false =>
              have hinfinite : ∀ {y : Single}, y.isFinite = false →
                  ¬ FiniteThreshold ⟨model, locale, maxResults, some y, whitelist, blacklist⟩ :=
                fun hinfinite hall => by
                  rw [hall _ rfl] at hinfinite
                  cases hinfinite
              exact .inr ⟨hinfinite hfinite, hinfinite (by rw [← halike, hfinite])⟩

/-- A threshold without a JSON number is shown as `null`. -/
theorem null_mem_writtenMembers {config : EngineConfig} (hinfinite : ¬ config.FiniteThreshold) :
    ("score_threshold".toList, Tree.null)
      ∈ config.writtenMembers.map fun m => (m.1.toList, m.2.2) := by
  rw [FiniteThreshold] at hinfinite
  push Not at hinfinite
  obtain ⟨x, hthreshold, hinfinite⟩ := hinfinite
  have hnull : Tree.ofSingle x = .null := Tree.ofSingle_eq_null (Bool.eq_false_iff.mpr hinfinite)
  refine List.mem_map.mpr ⟨("score_threshold", writeSingle x, Tree.ofSingle x), ?_, by rw [hnull]⟩
  rw [writtenMembers, hthreshold]
  exact List.mem_append_left _ (List.mem_append_right _ (List.mem_singleton_self _))

/-- The text of a configuration identifies it. Where both thresholds are unset or
finite, equal texts are texts of one configuration, the bits of the threshold and
the split between the lists included. A threshold that is not finite is shown as
`null`, and its text is no text of a configuration with another kind of threshold. -/
theorem toJson_identifies (config config' : EngineConfig) (hfinite' : config'.FiniteThreshold) :
    (config.FiniteThreshold → config.toJson = config'.toJson → config = config')
      ∧ (¬ config.FiniteThreshold → config.toJson ≠ config'.toJson
          ∧ ∃ members, Document config.toJson.toList (.object members)
            ∧ ("score_threshold".toList, .null) ∈ members) := by
  -- A text is the document of one tree, so equal texts have equal trees.
  have htrees : config.toJson = config'.toJson → config.tree = config'.tree := by
    intro hsame
    refine config.document_toJson.unique ?_
    rw [hsame]
    exact config'.document_toJson
  refine ⟨fun hfinite hsame => ?_, fun hinfinite => ⟨fun hsame => ?_, _, config.document_toJson,
    null_mem_writtenMembers hinfinite⟩⟩
  · rcases eq_or_of_tree_eq (htrees hsame) with heq | ⟨-, hinfinite'⟩
    · exact heq
    · exact absurd hfinite' hinfinite'
  · rcases eq_or_of_tree_eq (htrees hsame) with heq | ⟨-, hinfinite'⟩
    · rw [heq] at hinfinite
      exact hinfinite hfinite'
    · exact hinfinite' hfinite'

/-- The threshold zero, against the negative zero, an unset one and infinity. -/
theorem toJson_identifies_zero :
    let config : Option Single → EngineConfig := fun threshold =>
      ⟨⟨7, 4096, 64⟩, "en", 3, threshold, ["cat", "a\"b"], []⟩
    (config (some (.zero false))).FiniteThreshold
      ∧ (config (some (.zero true))).toJson ≠ (config (some (.zero false))).toJson
      ∧ (config none).toJson ≠ (config (some (.zero false))).toJson
      ∧ (config (some (.infinite false))).toJson ≠ (config (some (.zero false))).toJson := by
  intro config
  have hzero : ∀ sign, (config (some (.zero sign))).FiniteThreshold := by
    rintro sign x ⟨⟩
    rfl
  have hunset : (config none).FiniteThreshold := nofun
  have hinfinite : ¬ (config (some (.infinite false))).FiniteThreshold := fun hfinite =>
    Bool.false_ne_true (hfinite _ rfl)
  refine ⟨hzero false, fun hsame => ?_, fun hsame => ?_, ?_⟩
  · have heq := (toJson_identifies _ _ (hzero false)).1 (hzero true) hsame
    cases heq
  · have heq := (toJson_identifies _ _ (hzero false)).1 hunset hsame
    cases heq
  · exact ((toJson_identifies _ _ (hzero false)).2 hinfinite).1

end EngineConfig

end ClassifierBridge

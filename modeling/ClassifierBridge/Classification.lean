import ClassifierBridge.Binary.Arithmetic

/-!
# `ClassifierBridge.Classification`: what an engine answers and what a host gets

An engine answers with one group of categories per output head. The host gets
the same groups and categories in the same order; only the names of a category
are reduced to one label.
-/

set_option autoImplicit false

namespace ClassifierBridge

/-- A category as the engine scored it. -/
structure Category where
  /-- the place of the category in the model's label map -/
  index : Int32
  score : Single
  className : String
  /-- the name in the configured language, empty if the model has none -/
  displayName : String := ""
deriving BEq

/-- The categories of one output head, in the engine's order. -/
structure Group where
  head : Int32
  categories : List Category
deriving BEq

/-- An engine's whole answer. -/
structure Classification where
  groups : List Group := []
deriving BEq

/-- A label with its score. -/
structure LabelledScore where
  label : String
  score : Single
deriving BEq

/-- The labelled scores of one output head. -/
structure HeadRecord where
  head : Int32
  categories : List LabelledScore
deriving BEq

/-- The label that the host sees: the display name, or the class name where
there is no display name. -/
def Category.label (c : Category) : String :=
  if c.displayName.isEmpty then c.className else c.displayName

/-- The host gets label and score of a category, and neither its index nor its display name. -/
def Category.labelled (c : Category) : LabelledScore := ⟨c.label, c.score⟩

/-- The head with its categories, in the order of the answer. -/
def Group.record (g : Group) : HeadRecord := ⟨g.head, g.categories.map Category.labelled⟩

/-- The records for the host, one per group. -/
def Classification.records (c : Classification) : List HeadRecord := c.groups.map Group.record

/-- The host gets one record for each head that the engine answered. -/
theorem Classification.length_records (c : Classification) :
    c.records.length = c.groups.length := List.length_map ..

end ClassifierBridge

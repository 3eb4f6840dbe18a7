import Mathlib.Data.List.Nodup
import Mathlib.Data.String.Basic

namespace Json

-- A float is a decimal mantissa and exponent.
inductive Value where
  | null
  | bool (value : Bool)
  | int (value : Int)
  | float (mantissa exponent : Int)
  | str (value : String)
  | arr (items : List Value)
  | obj (fields : List (String × Value))

namespace Value

mutual
def decEq (first second : Value) : Decidable (first = second) :=
  match first, second with
  | .null, .null => .isTrue rfl
  | .bool a, .bool b => decidable_of_iff (a = b) (by simp)
  | .int a, .int b => decidable_of_iff (a = b) (by simp)
  | .float a e, .float b f => decidable_of_iff (a = b ∧ e = f) (by simp)
  | .str a, .str b => decidable_of_iff (a = b) (by simp)
  | .arr a, .arr b => @decidable_of_iff _ (a = b) (by simp) (decEqItems a b)
  | .obj a, .obj b => @decidable_of_iff _ (a = b) (by simp) (decEqFields a b)
  | .null, .bool _ | .null, .int _ | .null, .float _ _ | .null, .str _ | .null, .arr _
  | .null, .obj _ | .bool _, .null | .bool _, .int _ | .bool _, .float _ _ | .bool _, .str _
  | .bool _, .arr _ | .bool _, .obj _ | .int _, .null | .int _, .bool _ | .int _, .float _ _
  | .int _, .str _ | .int _, .arr _ | .int _, .obj _ | .float _ _, .null | .float _ _, .bool _
  | .float _ _, .int _ | .float _ _, .str _ | .float _ _, .arr _ | .float _ _, .obj _
  | .str _, .null | .str _, .bool _ | .str _, .int _ | .str _, .float _ _ | .str _, .arr _
  | .str _, .obj _ | .arr _, .null | .arr _, .bool _ | .arr _, .int _ | .arr _, .float _ _
  | .arr _, .str _ | .arr _, .obj _ | .obj _, .null | .obj _, .bool _ | .obj _, .int _
  | .obj _, .float _ _ | .obj _, .str _ | .obj _, .arr _ => .isFalse (by simp)

def decEqItems (first second : List Value) : Decidable (first = second) :=
  match first, second with
  | [], [] => .isTrue rfl
  | a :: as, b :: bs =>
      @decidable_of_iff _ (a = b ∧ as = bs) (by simp)
        (@instDecidableAnd _ _ (decEq a b) (decEqItems as bs))
  | [], _ :: _ => .isFalse (by simp)
  | _ :: _, [] => .isFalse (by simp)

def decEqFields (first second : List (String × Value)) : Decidable (first = second) :=
  match first, second with
  | [], [] => .isTrue rfl
  | (k, a) :: as, (l, b) :: bs =>
      @decidable_of_iff _ ((k = l ∧ a = b) ∧ as = bs) (by simp)
        (@instDecidableAnd _ _ (@instDecidableAnd _ _ (inferInstance) (decEq a b))
          (decEqFields as bs))
  | [], _ :: _ => .isFalse (by simp)
  | _ :: _, [] => .isFalse (by simp)
end

-- Structural: a language may take true, 1 and 1.0 for one value.
instance : DecidableEq Value := decEq

def fields : Value → List (String × Value)
  | .obj fields => fields
  | _ => []

def get? (value : Value) (name : String) : Option Value := value.fields.lookup name

def isMapping : Value → Bool
  | .obj _ => true
  | _ => false

-- The fields are the given ones, in any order.
def hasExactly (value : Value) (names : List String) : Bool :=
  value.fields.all (fun field => field.1 ∈ names) &&
    names.all fun name => (value.get? name).isSome

-- The truth value of a value in a condition.
def truthy : Value → Bool
  | .null => false
  | .bool value => value
  | .int value => value ≠ 0
  | .float mantissa _ => mantissa ≠ 0
  | .str text => text ≠ ""
  | .arr items => !items.isEmpty
  | .obj fields => !fields.isEmpty

def ofOption : Option String → Value
  | none => .null
  | some text => .str text

-- Objects list their fields by name, in ascending order and without repetition.
-- A mapping compares without order, so each one has a single canonical form.
mutual
def canonical : Value → Bool
  | .arr items => canonicalItems items
  | .obj fields => canonicalFields fields
  | _ => true

def canonicalItems : List Value → Bool
  | [] => true
  | item :: rest => item.canonical && canonicalItems rest

def canonicalFields : List (String × Value) → Bool
  | [] => true
  | (name, value) :: rest =>
      rest.all (fun field => decide (name < field.1)) && value.canonical && canonicalFields rest
end

theorem ofOption_injective {first second : Option String}
    (h : ofOption first = ofOption second) : first = second := by
  cases first <;> cases second <;> simp_all [ofOption]

theorem ofOption_canonical (text : Option String) : (ofOption text).canonical = true := by
  cases text <;> rfl

theorem canonicalItems_iff (items : List Value) :
    canonicalItems items = true ↔ ∀ item ∈ items, item.canonical = true := by
  induction items with
  | nil => simp [canonicalItems]
  | cons item rest ih => simp [canonicalItems, ih]

-- The names ascend and the values are canonical.
theorem canonicalFields_iff (fields : List (String × Value)) :
    canonicalFields fields = true ↔ (fields.map Prod.fst).Pairwise (· < ·) ∧
      ∀ field ∈ fields, field.2.canonical = true := by
  induction fields with
  | nil => simp [canonicalFields]
  | cons field rest ih =>
      rcases field with ⟨name, value⟩
      simp only [canonicalFields, Bool.and_eq_true, List.all_eq_true, decide_eq_true_eq, ih,
        List.map_cons, List.pairwise_cons, List.forall_mem_cons, List.mem_map,
        forall_exists_index, and_imp, forall_apply_eq_imp_iff₂]
      tauto

def insertField (name : String) (value : Value) :
    List (String × Value) → List (String × Value)
  | [] => [(name, value)]
  | (other, held) :: rest =>
      if name < other then (name, value) :: (other, held) :: rest
      else if name = other then (name, value) :: rest
      else (other, held) :: insertField name value rest

theorem mem_insertField (name : String) (value : Value) (fields : List (String × Value))
    (field : String × Value) (h : field ∈ insertField name value fields) :
    field = (name, value) ∨ field ∈ fields := by
  induction fields with
  | nil => simpa [insertField] using h
  | cons head rest ih =>
      rcases head with ⟨other, held⟩
      simp only [insertField] at h
      split at h
      · simpa using h
      · split at h
        · rcases List.mem_cons.mp h with he | hm
          · exact Or.inl he
          · exact Or.inr (List.mem_cons_of_mem _ hm)
        · rcases List.mem_cons.mp h with he | hm
          · exact Or.inr (by simp [he])
          · exact (ih hm).imp_right (List.mem_cons_of_mem _)

theorem insertField_canonical (name : String) (value : Value) (fields : List (String × Value))
    (hv : value.canonical = true) (hf : canonicalFields fields = true) :
    canonicalFields (insertField name value fields) = true := by
  induction fields with
  | nil => simp [insertField, canonicalFields, hv]
  | cons head rest ih =>
      rcases head with ⟨other, held⟩
      simp only [canonicalFields, Bool.and_eq_true, List.all_eq_true, decide_eq_true_eq] at hf
      obtain ⟨⟨hrest, hheld⟩, hfields⟩ := hf
      simp only [insertField]
      split
      · rename_i hlt
        simp only [canonicalFields, List.all_cons, Bool.and_eq_true, List.all_eq_true,
          decide_eq_true_eq]
        exact ⟨⟨⟨hlt, fun field hm => lt_trans hlt (hrest field hm)⟩, hv⟩, ⟨hrest, hheld⟩, hfields⟩
      · rename_i hnlt
        split
        · rename_i he
          subst he
          simp only [canonicalFields, Bool.and_eq_true, List.all_eq_true, decide_eq_true_eq]
          exact ⟨⟨hrest, hv⟩, hfields⟩
        · rename_i hne
          simp only [canonicalFields, Bool.and_eq_true, List.all_eq_true, decide_eq_true_eq]
          refine ⟨⟨fun field hm => ?_, hheld⟩, ih hfields⟩
          rcases mem_insertField name value rest field hm with rfl | hm
          · exact lt_of_le_of_ne (le_of_not_gt hnlt) (Ne.symm hne)
          · exact hrest field hm

end Value

-- A value in canonical form.
abbrev Frozen := { value : Value // value.canonical = true }

-- A mapping in canonical form.
structure Mapping where
  fields : List (String × Value)
  canonical : Value.canonicalFields fields = true
deriving DecidableEq

namespace Mapping

def toValue (mapping : Mapping) : Value := .obj mapping.fields

theorem toValue_canonical (mapping : Mapping) : mapping.toValue.canonical = true :=
  mapping.canonical

def empty : Mapping := ⟨[], rfl⟩

def contains (mapping : Mapping) (name : String) : Bool :=
  (mapping.toValue.get? name).isSome

def insert (mapping : Mapping) (name : String) (value : Frozen) : Mapping :=
  ⟨Value.insertField name value.1 mapping.fields,
    Value.insertField_canonical name value.1 mapping.fields value.2 mapping.canonical⟩

theorem mem_insertField_self (name : String) (value : Value) (fields : List (String × Value)) :
    (name, value) ∈ Value.insertField name value fields := by
  induction fields with
  | nil => exact List.mem_singleton_self _
  | cons head rest ih =>
      rcases head with ⟨other, held⟩
      simp only [Value.insertField]
      split
      · exact List.mem_cons_self
      · split
        · exact List.mem_cons_self
        · exact List.mem_cons_of_mem _ ih

-- The names of a mapping are distinct.
theorem value_unique (mapping : Mapping) {name : String} {first second : Value}
    (hfirst : (name, first) ∈ mapping.fields) (hsecond : (name, second) ∈ mapping.fields) :
    first = second := by
  have hascend := ((Value.canonicalFields_iff mapping.fields).mp mapping.canonical).1
  have hnodup : (mapping.fields.map Prod.fst).Nodup := hascend.imp fun h => ne_of_lt h
  exact congrArg Prod.snd (List.inj_on_of_nodup_map hnodup hfirst hsecond rfl)

theorem insert_injective {mapping : Mapping} {name : String} {first second : Frozen}
    (h : mapping.insert name first = mapping.insert name second) : first = second := by
  have hfields : Value.insertField name first.1 mapping.fields =
      Value.insertField name second.1 mapping.fields := congrArg Mapping.fields h
  apply Subtype.ext
  apply (mapping.insert name second).value_unique
  · change _ ∈ Value.insertField name second.1 mapping.fields
    rw [← hfields]
    exact mem_insertField_self ..
  · exact mem_insertField_self ..

-- The mapping that a canonical object is.
def ofValue (value : Value) : Option Mapping :=
  match value with
  | .obj fields => if h : Value.canonicalFields fields = true then some ⟨fields, h⟩ else none
  | _ => none

theorem ofValue_toValue (mapping : Mapping) : ofValue mapping.toValue = some mapping := by
  simp [ofValue, toValue, mapping.canonical]

end Mapping

end Json

import AccessorGen.Proofs.Grouping
import AccessorGen.Proofs.Outcomes

set_option autoImplicit false

/-!
# Isolation

What is generated for one type does not depend on the fields of other types, and
what is generated at all does not depend on the fields that get no accessor,
however the fields are mixed.  The header of a unit is thus the one of the first
field of its type that does get an accessor.
-/

namespace AccessorGen

/-- The snapshot with the fields of one type alone. -/
def Snapshot.restrict (s : Snapshot) (k : TypeIdentity) : Snapshot :=
  { s with fields := s.fields.filter (·.container.identity = k) }

namespace Settings

variable (settings : Settings) (s : Snapshot)

/-! ## One type -/

theorem accessors_restrict (k : TypeIdentity) :
    settings.accessors (s.restrict k) = (settings.accessors s).filter (·.1.identity = k) := by
  -- The outcome of a field is the same among fewer fields.
  have hsame : settings.accessor? (s.restrict k) = settings.accessor? s := rfl
  rw [accessors_eq_filterMap, accessors_eq_filterMap, hsame, Snapshot.restrict,
    List.filterMap_filter, List.filter_filterMap]
  refine congrArg (s.fields.filterMap ·) (funext fun f => ?_)
  cases h : settings.accessor? s f with
  | none => simp
  | some p =>
    have hp : p.1 = f.container := settings.fst_of_accessor? s h
    by_cases hk : f.container.identity = k <;> simp [Option.filter, hp, hk]

/-- The unit of a type is made from the fields of that type alone. -/
theorem sources_restrict (k : TypeIdentity) :
    (settings.generate (s.restrict k)).sources =
      (settings.generate s).sources.filter (·.header.identity = k) := by
  simp only [generate, groups]
  rw [accessors_restrict, AccessorGroup.ofAccessors_filter, List.filter_map]
  rfl

/-- No two units belong to one type. -/
theorem nodup_identities_sources :
    ((settings.generate s).sources.map (·.header.identity)).Nodup := by
  rw [generate, List.map_map]
  exact AccessorGroup.nodup_identities_ofAccessors (settings.accessors s)

theorem length_sources_filter_le (k : TypeIdentity) :
    ((settings.generate s).sources.filter (·.header.identity = k)).length ≤ 1 := by
  have hcount := List.nodup_iff_count_le_one.mp (settings.nodup_identities_sources s) k
  rw [List.count_eq_countP, List.countP_map, List.countP_eq_length_filter] at hcount
  have hfilter : (settings.generate s).sources.filter (·.header.identity = k) =
      (settings.generate s).sources.filter ((· == k) ∘ fun u => u.header.identity) :=
    List.filter_congr fun u _ => (Bool.beq_eq_decide_eq _ _).symm
  rw [hfilter]
  exact hcount

/-! ## Fields without an accessor -/

/-- The second list is left of the first when some fields are deleted, none of
which gets an accessor: the directive is not on them, or they are skipped. -/
inductive Deletes : List Field → List Field → Prop where
  | nil : Deletes [] []
  | keep (f : Field) {fields rest : List Field} (h : Deletes fields rest) :
      Deletes (f :: fields) (f :: rest)
  | unmarked (f : Field) {fields rest : List Field}
      (hf : Directive.annotated? settings.baseName f = none) (h : Deletes fields rest) :
      Deletes (f :: fields) rest
  | skipped (f : Field) {fields rest : List Field} {a : Directive.Annotated}
      (hf : Directive.annotated? settings.baseName f = some a)
      (ha : (settings.outcome s a).accessor? = none) (h : Deletes fields rest) :
      Deletes (f :: fields) rest

variable {settings s}

theorem Deletes.filterMap_accessor? {fields rest : List Field}
    (h : settings.Deletes s fields rest) :
    rest.filterMap (settings.accessor? s) = fields.filterMap (settings.accessor? s) := by
  induction h with
  | nil => rfl
  | keep f _ ih => simp only [List.filterMap_cons, ih]
  | unmarked f hf _ ih =>
    have hnone : settings.accessor? s f = none := by simp [accessor?, outcome?, hf]
    rw [ih, List.filterMap_cons_none hnone]
  | skipped f hf ha _ ih =>
    have hnone : settings.accessor? s f = none := by simp [accessor?, outcome?, hf, ha]
    rw [ih, List.filterMap_cons_none hnone]

/-- Without some fields that get no accessor all units are the same. -/
theorem Deletes.sources_eq {fields : List Field} (h : settings.Deletes s s.fields fields) :
    (settings.generate { s with fields := fields }).sources = (settings.generate s).sources := by
  have haccessors : settings.accessors { s with fields := fields } = settings.accessors s := by
    rw [accessors_eq_filterMap, accessors_eq_filterMap]
    exact h.filterMap_accessor?
  simp only [generate, groups, haccessors]

variable (settings s)

/-- Types and failures are isolated: the fields of one type give exactly the
unit of that type, there is one such unit at most, the diagnostics are those of
the fields in order, and fields without an accessor leave no trace in the units
and in the definition. -/
theorem generate_isolated :
    (∀ k, (settings.generate (s.restrict k)).sources =
        (settings.generate s).sources.filter (·.header.identity = k) ∧
      ((settings.generate s).sources.filter (·.header.identity = k)).length ≤ 1) ∧
    (settings.generate s).diagnostics = s.fields.flatMap (settings.fieldDiagnostics s) ∧
    ∀ fields, settings.Deletes s s.fields fields →
      (settings.generate { s with fields := fields }).sources = (settings.generate s).sources ∧
        (settings.generate { s with fields := fields }).definition =
          (settings.generate s).definition := by
  refine ⟨?_, settings.diagnostics_generate s, ?_⟩
  · intro k
    exact ⟨settings.sources_restrict s k, settings.length_sources_filter_le s k⟩
  · intro fields h
    exact ⟨h.sources_eq, rfl⟩

end Settings

/-! ## A shop -/

namespace Shop

/-- A field of a type in the shop with one attribute. -/
def field (container ident : String) (kind : TypeKind) (mark : Attribute) : Field :=
  ⟨ident, .named "int" [], ⟨some "Shop", container, kind, []⟩, [mark], none⟩

/-- A field whose directive has too many arguments, in a struct. -/
def broken : Field :=
  field "Item" "count" .structType ⟨"AutoProp", [.bool true, .bool false]⟩

/-- A field without the directive. -/
def plain : Field := field "Item" "weight" .structType ⟨"Obsolete", []⟩

def price : Field := field "Item" "price" .classType ⟨"AutoProp", []⟩

def total : Field := field "Cart" "total" .classType ⟨"AutoProp", []⟩

def size : Field := field "Item" "size" .recordType ⟨"AutoProp", [.bool true]⟩

/-- The fields of two types, mixed with fields that get no accessor. -/
def snapshot : Snapshot := ⟨[], [broken, price, total, plain, size]⟩

/-- Neither the broken nor the plain field decides anything about the units.  The
one unit of items is that of their own fields alone, and it is headed by the class
that the price belongs to, not by the struct of the broken field. -/
theorem generate_shop_isolated :
    Settings.standard.Deletes snapshot snapshot.fields [price, total, size] ∧
      (Settings.standard.generate ⟨[], [price, total, size]⟩).sources =
        (Settings.standard.generate snapshot).sources ∧
      ((Settings.standard.generate snapshot).sources.filter
          (·.header.identity = broken.container.identity)).map
        (fun u => (u.header, u.unit.hintName)) =
          [(price.container, "Shop.Item.Generated.cs")] := by
  have hbroken : Directive.annotated? Settings.standard.baseName broken =
      some ⟨broken, ⟨"AutoProp", [.bool true, .bool false]⟩⟩ := by rfl
  have hplain : Directive.annotated? Settings.standard.baseName plain = none := by rfl
  have hdeletes : Settings.standard.Deletes snapshot snapshot.fields [price, total, size] :=
    .skipped broken hbroken (by rfl)
      (.keep price (.keep total (.unmarked plain hplain (.keep size .nil))))
  obtain ⟨hrestricted, -, hdeleted⟩ := Settings.generate_isolated .standard snapshot
  refine ⟨hdeletes, (hdeleted _ hdeletes).1, ?_⟩
  rw [← (hrestricted broken.container.identity).1]
  rfl

end Shop

end AccessorGen

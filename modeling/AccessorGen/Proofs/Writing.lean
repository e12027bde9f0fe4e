import AccessorGen.Run
import AccessorGen.Proofs.Files
import AccessorGen.Proofs.UnitNames

set_option autoImplicit false

/-!
# Writing units

After units have been written into a directory, a file holds the last unit of
its name.  The units of a valid snapshot have names of files, so every unit can
be read from its own file as long as no two units share a name, that is, as long
as no type mimics another.
-/

namespace AccessorGen

/-! ## Runs in memory -/

namespace Rehearsal

variable {r r' : Rehearsal}

/-- What comes of a program, and what it leaves behind. -/
def perform {α : Type} (r : Rehearsal) (program : ExceptT RunError (StateM Rehearsal) α) :
    Except RunError α × Rehearsal := program.run r

/-- A program stops where its first part does, or goes on from what that leaves
behind. -/
theorem perform_bind_eq_iff {α β : Type} {x : ExceptT RunError (StateM Rehearsal) α}
    {f : α → ExceptT RunError (StateM Rehearsal) β} {result : Except RunError β} :
    r.perform (x >>= f) = (result, r') ↔
      (∃ e, r.perform x = (.error e, r') ∧ result = .error e) ∨
        ∃ a between, r.perform x = (.ok a, between) ∧ between.perform (f a) = (result, r') := by
  have hrun : r.perform (x >>= f) = ExceptT.bindCont f (r.perform x).1 (r.perform x).2 := rfl
  rw [hrun]
  cases hx : r.perform x with
  | mk first between =>
    cases first with
    | error e =>
      have hfails : ExceptT.bindCont f (.error e) between = (.error e, between) := rfl
      simp [hfails, and_comm, eq_comm]
    | ok a =>
      have hgoes : ExceptT.bindCont f (.ok a) between = between.perform (f a) := rfl
      simp [hgoes]

/-- A program that comes to its end has gone through its first part. -/
theorem perform_bind_eq_ok_iff {α β : Type} {x : ExceptT RunError (StateM Rehearsal) α}
    {f : α → ExceptT RunError (StateM Rehearsal) β} {b : β} :
    r.perform (x >>= f) = (.ok b, r') ↔
      ∃ a between, r.perform x = (.ok a, between) ∧ between.perform (f a) = (.ok b, r') := by
  simp [perform_bind_eq_iff]

/-- An access cannot fail by itself: the program goes on with its result. -/
theorem perform_liftM_bind {α β : Type} {access : StateM Rehearsal α}
    {f : α → ExceptT RunError (StateM Rehearsal) β} {a : α} (h : access r = (a, r')) :
    r.perform (liftM access >>= f) = r'.perform (f a) := by
  have hrun : r.perform (liftM access >>= f) = (access r).2.perform (f (access r).1) := rfl
  rw [hrun, h]

/-- An access that is demanded succeeds if the access does. -/
theorem perform_demand {α : Type} {error : AccessFault → RunError}
    {access : StateM Rehearsal (Except AccessFault α)} {result : Except AccessFault α}
    (h : access r = (result, r')) :
    r.perform (Run.demand error access) = (result.mapError error, r') := by
  rw [Run.demand, perform_liftM_bind h]
  cases result with
  | error fault => rfl
  | ok value => rfl

/-- A file that is written changes the disk and nothing else; one that cannot be
written changes nothing. -/
theorem perform_writeText (error : AccessFault → RunError) (path content : String) :
    r.perform (Run.demand error (host.writeText path content)) =
      match r.disk.writeText path content with
      | .ok disk => (.ok (), { r with disk := disk })
      | .error fault => (.error (error fault), r) := by
  have haccess : host.writeText path content r =
      ((orUnchanged (·.writeText path content) r.disk).1,
        { r with disk := (orUnchanged (·.writeText path content) r.disk).2 }) := rfl
  rw [perform_demand haccess]
  cases hwrite : r.disk.writeText path content with
  | error fault => simp [orUnchanged, hwrite, Except.mapError]
  | ok disk => simp [orUnchanged, hwrite, Except.mapError]

theorem perform_writeText_eq_ok_iff {error : AccessFault → RunError} {path content : String} :
    r.perform (Run.demand error (host.writeText path content)) = (.ok (), r') ↔
      ∃ disk, r.disk.writeText path content = .ok disk ∧ r' = { r with disk := disk } := by
  rw [perform_writeText]
  cases r.disk.writeText path content with
  | error fault => simp
  | ok disk => simp [eq_comm]

/-- Units are written one after the other. -/
theorem perform_writeAll_cons_eq_ok_iff {directory : String} {u : SourceUnit}
    {rest : List SourceUnit} {paths : List String} :
    r.perform (Run.writeAll host directory (u :: rest)) = (.ok paths, r') ↔
      ∃ disk others, r.disk.writeText (joinPath directory u.hintName) u.text = .ok disk ∧
        ({ r with disk := disk } : Rehearsal).perform (Run.writeAll host directory rest) =
          (.ok others, r') ∧
        paths = joinPath directory u.hintName :: others := by
  constructor
  · intro h
    obtain ⟨_, between, hwrite, hrest⟩ := perform_bind_eq_ok_iff.mp h
    obtain ⟨disk, hdisk, rfl⟩ := perform_writeText_eq_ok_iff.mp hwrite
    obtain ⟨others, last, hothers, hlast⟩ := perform_bind_eq_ok_iff.mp hrest
    obtain ⟨hpaths, rfl⟩ := Prod.mk.inj hlast
    exact ⟨disk, others, hdisk, hothers, (Except.ok.inj hpaths).symm⟩
  · rintro ⟨disk, others, hdisk, hothers, rfl⟩
    refine perform_bind_eq_ok_iff.mpr ⟨(), { r with disk := disk }, ?_, ?_⟩
    · exact perform_writeText_eq_ok_iff.mpr ⟨disk, hdisk, rfl⟩
    · exact perform_bind_eq_ok_iff.mpr ⟨others, r', hothers, rfl⟩

/-- Units leave the files of other names alone. -/
theorem readText_perform_writeAll_of_not_mem {directory name kept : String}
    {units : List SourceUnit} {paths : List String}
    (hunits : ∀ u ∈ units, Disk.IsFileName u.hintName) (hname : Disk.IsFileName name)
    (hnew : name ∉ units.map (·.hintName))
    (h : r.perform (Run.writeAll host directory units) = (.ok paths, r'))
    (hread : r.disk.readText (joinPath directory name) = .ok kept) :
    r'.disk.readText (joinPath directory name) = .ok kept := by
  induction units generalizing r paths with
  | nil =>
    obtain rfl : r = r' := congrArg Prod.snd h
    exact hread
  | cons u rest ih =>
    obtain ⟨disk, others, hdisk, hrest, -⟩ := perform_writeAll_cons_eq_ok_iff.mp h
    rw [List.map_cons, List.mem_cons, not_or] at hnew
    have hu := hunits u List.mem_cons_self
    refine ih (fun v hv => hunits v (List.mem_cons_of_mem u hv)) hnew.2 hrest ?_
    exact Disk.readText_writeText_of_ne hu hname hnew.1 hdisk hread

/-- A file holds the last unit of its name. -/
theorem readText_perform_writeAll {directory : String} {before after : List SourceUnit}
    {u : SourceUnit} {paths : List String}
    (hunits : ∀ v ∈ before ++ u :: after, Disk.IsFileName v.hintName)
    (hlast : u.hintName ∉ after.map (·.hintName))
    (h : r.perform (Run.writeAll host directory (before ++ u :: after)) = (.ok paths, r')) :
    r'.disk.readText (joinPath directory u.hintName) = .ok u.text := by
  induction before generalizing r paths with
  | nil =>
    obtain ⟨disk, others, hdisk, hrest, -⟩ := perform_writeAll_cons_eq_ok_iff.mp h
    have hu := hunits u List.mem_cons_self
    refine readText_perform_writeAll_of_not_mem
      (fun v hv => hunits v (List.mem_cons_of_mem u hv)) hu hlast hrest ?_
    exact Disk.readText_writeText_self hu hdisk
  | cons first before ih =>
    obtain ⟨disk, others, -, hrest, -⟩ := perform_writeAll_cons_eq_ok_iff.mp h
    exact ih (fun v hv => hunits v (List.mem_cons_of_mem first hv)) hrest

/-- Creating the directory comes before the units, and a note about them after. -/
theorem readText_perform_writeUnits {directory : String} {before after : List SourceUnit}
    {u : SourceUnit} {paths : List String}
    (hunits : ∀ v ∈ before ++ u :: after, Disk.IsFileName v.hintName)
    (hlast : u.hintName ∉ after.map (·.hintName))
    (h : r.perform (Run.writeUnits host directory (before ++ u :: after)) = (.ok paths, r')) :
    r'.disk.readText (joinPath directory u.hintName) = .ok u.text := by
  obtain ⟨_, start, -, h⟩ := perform_bind_eq_ok_iff.mp h
  obtain ⟨_, written, hwritten, h⟩ := perform_bind_eq_ok_iff.mp h
  obtain ⟨_, logged, hlogged, h⟩ := perform_bind_eq_ok_iff.mp h
  have hread := readText_perform_writeAll hunits hlast hwritten
  obtain rfl : logged = r' := congrArg Prod.snd h
  obtain rfl : { written with events := _ } = logged := congrArg Prod.snd hlogged
  exact hread

/-- Units can be written into a directory that accepts their names. -/
theorem exists_perform_writeAll {directory : String} {place : Place} {units : List SourceUnit}
    (r : Rehearsal) (hunits : ∀ u ∈ units, r.disk.Accepts directory place u.hintName) :
    ∃ paths r', r.perform (Run.writeAll host directory units) = (.ok paths, r') := by
  induction units generalizing r with
  | nil => exact ⟨[], r, rfl⟩
  | cons u rest ih =>
    have hu := hunits u List.mem_cons_self
    have hdisk := hu.writeText u.text
    have hrest := ih { r with disk := r.disk.put (place ++ [u.hintName]) (.text u.text) }
      fun v hv => hu.put u.text (hunits v (List.mem_cons_of_mem u hv))
    obtain ⟨others, r', hothers⟩ := hrest
    exact ⟨_, r', perform_writeAll_cons_eq_ok_iff.mpr ⟨_, others, hdisk, hothers, rfl⟩⟩

/-- The same, with the directory created first. -/
theorem exists_perform_writeUnits {directory : String} {disk : Disk} {place : Place}
    {units : List SourceUnit} (hmade : r.disk.makeDirectories directory = (.ok (), disk))
    (hunits : ∀ u ∈ units, disk.Accepts directory place u.hintName) :
    ∃ paths r', r.perform (Run.writeUnits host directory units) = (.ok paths, r') := by
  have hchange : host.makeDirectories directory r =
      ((r.disk.makeDirectories directory).1,
        { r with disk := (r.disk.makeDirectories directory).2 }) := rfl
  rw [hmade] at hchange
  obtain ⟨paths, r', hwritten⟩ := exists_perform_writeAll { r with disk := disk } hunits
  refine ⟨paths, { r' with events := r'.events ++ [.unitsWritten directory paths.length] }, ?_⟩
  refine perform_bind_eq_ok_iff.mpr ⟨(), { r with disk := disk }, perform_demand hchange, ?_⟩
  exact perform_bind_eq_ok_iff.mpr ⟨paths, r', hwritten, rfl⟩

end Rehearsal

/-! ## The units of a snapshot -/

/-- The name of a valid type's unit is the name of a file, if no slash stands in
the suffix. -/
theorem TypeHeader.isFileName_hintName {settings : Settings} {h : TypeHeader} (hh : h.issues = [])
    (hsuffix : '/' ∉ settings.fileSuffix.toList) : Disk.IsFileName (h.hintName settings) where
  isName := by
    obtain ⟨c, hc, hpart⟩ := exists_isPart_qualifiedName hh
    refine Disk.isName_of_mem (c := c) (by simp [hintName, hc]) ?_
    rintro rfl
    exact absurd hpart (by decide +kernel)
  slash := not_mem_hintName hh (by decide) (by decide) (by decide +kernel) hsuffix

namespace Settings

/-- The units of a valid snapshot have names of files, if the settings bring no
slash in. -/
theorem isFileName_hintName_of_mem_units {settings : Settings} {s : Snapshot}
    (hs : s.validate = .ok ()) (hclass : '/' ∉ settings.className.toList)
    (hsuffix : '/' ∉ settings.fileSuffix.toList) {u : SourceUnit}
    (hu : u ∈ (settings.generate s).units) : Disk.IsFileName u.hintName := by
  rcases List.mem_append.mp hu with hu | hu
  · have hdefinition : u = Directive.definition settings := by
      unfold generate at hu
      split at hu
      · simpa using hu
      · simp at hu
    rw [hdefinition]
    refine ⟨Disk.isName_of_mem (c := 'c') ?_ (by decide), ?_⟩
    · simp [Directive.definition]
    · simp [Directive.definition, hclass]
  · obtain ⟨v, hv, rfl⟩ := List.mem_map.mp hu
    have hvalid := settings.issues_of_mem_sources hs hv
    obtain ⟨g, -, rfl⟩ := List.mem_map.mp hv
    exact TypeHeader.isFileName_hintName hvalid hsuffix

theorem isFileName_of_mem_units {s : Snapshot} (hs : s.validate = .ok ()) {u : SourceUnit}
    (hu : u ∈ (Settings.standard.generate s).units) : Disk.IsFileName u.hintName :=
  isFileName_hintName_of_mem_units hs (by decide) (by decide) hu

/-- In a valid snapshot, under the standard settings, the units have names of
their own exactly if no type mimics another; and then, once the units have been
written, every file holds its own unit. -/
theorem units_kept_apart {s : Snapshot} (hs : s.validate = .ok ()) :
    (((Settings.standard.generate s).units.map (·.hintName)).Nodup ↔
      ∀ u ∈ (Settings.standard.generate s).sources, ∀ v ∈ (Settings.standard.generate s).sources,
        ¬ u.header.Mimics v.header) ∧
    ((∀ u ∈ (Settings.standard.generate s).sources, ∀ v ∈ (Settings.standard.generate s).sources,
        ¬ u.header.Mimics v.header) →
      ∀ (directory : String) (r r' : Rehearsal) (paths : List String),
        r.perform (Run.writeUnits Rehearsal.host directory (Settings.standard.generate s).units) =
          (.ok paths, r') →
        ∀ u ∈ (Settings.standard.generate s).units,
          r'.disk.readText (joinPath directory u.hintName) = .ok u.text) := by
  have hnodup := nodup_hintNames_units_iff hs
  refine ⟨hnodup, ?_⟩
  intro hapart directory r r' paths hwrite u hu
  -- A unit whose name is its own is the last one of that name.
  obtain ⟨before, after, hunits⟩ := List.append_of_mem hu
  have hnames := hnodup.mpr hapart
  rw [hunits, List.map_append, List.map_cons, List.nodup_append, List.nodup_cons] at hnames
  rw [hunits] at hwrite
  refine Rehearsal.readText_perform_writeUnits ?_ hnames.2.1.1 hwrite
  intro v hv
  exact isFileName_of_mem_units hs (hunits ▸ hv)

end Settings

/-! ## Boxes -/

namespace Boxes

/-- A field with the directive on it, in a type of the shop. -/
def field (ident container : String) (params : List String) : Field :=
  ⟨ident, .named "int" [], ⟨some "Shop", container, .classType, params⟩, [⟨"AutoProp", []⟩], none⟩

/-- Two types of one name, one of them with a parameter. -/
def boxes : Snapshot := ⟨[], [field "content" "Box" ["T"], field "label" "Box" []]⟩

/-- The name of the second type mimics the first one. -/
def mimics : Snapshot := ⟨[], [field "content" "Box" ["T"], field "label" "Box_1" []]⟩

/-- The accessor of one field, in a group of its own. -/
def group (f : Field) (name : String) : AccessorGroup :=
  ⟨f.container, [⟨name, f.ident, f.type, f.type, .publicGet, .direct, none⟩]⟩

/-- The unit of the type with a parameter. -/
def generic : SourceUnit := ((group (field "content" "Box" ["T"]) "Content").unit .standard).unit

/-- The unit of the type whose name mimics it. -/
def plain : SourceUnit := ((group (field "label" "Box_1" []) "Label").unit .standard).unit

/-- The names of the units. -/
def names : List String :=
  ["AutoPropAttribute.cs", "Shop.Box.Generated.cs", "Shop.Box_1.Generated.cs"]

/-- The disk with an empty directory for the units. -/
def disk : Disk := ⟨[(Disk.home, .directory), (["work", "out"], .directory)]⟩

theorem accepts {name : String} (h : name ∈ names) :
    disk.Accepts "out" ["work", "out"] name := by
  simp only [names, List.mem_cons, List.not_mem_nil, or_false] at h
  rcases h with rfl | rfl | rfl <;>
  exact ⟨⟨by decide, by decide⟩, ⟨by decide, by decide, rfl, rfl⟩, by decide⟩

/-- The units can be written into a new directory. -/
theorem exists_perform {units : List SourceUnit} (h : units.map (·.hintName) ⊆ names) :
    ∃ paths r', (Rehearsal.start .empty).perform (Run.writeUnits Rehearsal.host "out" units) =
      (.ok paths, r') := by
  have hmade : Disk.empty.makeDirectories "out" = (.ok (), disk) := by rfl
  exact Rehearsal.exists_perform_writeUnits hmade fun u hu => accepts (h (List.mem_map_of_mem hu))

/-- Types with different numbers of parameters have files of their own. -/
theorem boxes_kept_apart :
    boxes.validate = .ok () ∧
      ∃ paths r', (Rehearsal.start .empty).perform (Run.writeUnits Rehearsal.host "out"
          (Settings.standard.generate boxes).units) = (.ok paths, r') ∧
        ∀ u ∈ (Settings.standard.generate boxes).units,
          r'.disk.readText (joinPath "out" u.hintName) = .ok u.text := by
  have hvalid : boxes.validate = .ok () := by rfl
  have hnames : (Settings.standard.generate boxes).units.map (·.hintName) =
      ["AutoPropAttribute.cs", "Shop.Box_1.Generated.cs", "Shop.Box.Generated.cs"] := by rfl
  have hnodup : ((Settings.standard.generate boxes).units.map (·.hintName)).Nodup := by
    rw [hnames]
    decide
  obtain ⟨paths, r', hwrite⟩ :
      ∃ paths r', (Rehearsal.start .empty).perform (Run.writeUnits Rehearsal.host "out"
        (Settings.standard.generate boxes).units) = (.ok paths, r') := by
    refine exists_perform ?_
    rw [hnames]
    decide
  have hapart := Settings.units_kept_apart hvalid
  exact ⟨hvalid, paths, r', hwrite, hapart.2 (hapart.1.mp hnodup) "out" _ r' paths hwrite⟩

/-- One type takes the file of the other: both units have one name, and after
they have been written the file does not hold the first one. -/
theorem box_overwritten :
    mimics.validate = .ok () ∧
      ¬ ((Settings.standard.generate mimics).units.map (·.hintName)).Nodup ∧
      ∃ paths r', (Rehearsal.start .empty).perform (Run.writeUnits Rehearsal.host "out"
          (Settings.standard.generate mimics).units) = (.ok paths, r') ∧
        ∃ u ∈ (Settings.standard.generate mimics).units,
          r'.disk.readText (joinPath "out" u.hintName) ≠ .ok u.text := by
  have hvalid : mimics.validate = .ok () := by rfl
  have hgroups : Settings.standard.groups mimics =
      [group (field "content" "Box" ["T"]) "Content",
        group (field "label" "Box_1" []) "Label"] := by rfl
  have hdefinition : Settings.standard.emitsDefinition = true := rfl
  have hunits : (Settings.standard.generate mimics).units =
      [Directive.definition .standard, generic] ++ plain :: [] := by
    simp only [Generation.units, Settings.generate, hdefinition, if_true, Option.toList_some,
      hgroups, List.map_cons, List.map_nil, generic, plain, List.cons_append, List.nil_append]
  have hnames : (Settings.standard.generate mimics).units.map (·.hintName) =
      ["AutoPropAttribute.cs", "Shop.Box_1.Generated.cs", "Shop.Box_1.Generated.cs"] := by rfl
  have hfiles := fun u => Settings.isFileName_of_mem_units (u := u) hvalid
  obtain ⟨paths, r', hwrite⟩ :
      ∃ paths r', (Rehearsal.start .empty).perform (Run.writeUnits Rehearsal.host "out"
        (Settings.standard.generate mimics).units) = (.ok paths, r') := by
    refine exists_perform ?_
    rw [hnames]
    decide
  refine ⟨hvalid, ?_, paths, r', hwrite, ?_⟩
  · rw [hnames]
    decide
  · rw [hunits] at hwrite hfiles ⊢
    have hread := Rehearsal.readText_perform_writeUnits hfiles List.not_mem_nil hwrite
    have hsame : plain.hintName = generic.hintName := by decide
    have hdiffer : plain.text ≠ generic.text := by decide
    rw [hsame] at hread
    refine ⟨generic, by simp, ?_⟩
    rw [hread]
    exact fun h => hdiffer (Except.ok.inj h)

end Boxes

end AccessorGen

import AccessorGen.Proofs.Writing

set_option autoImplicit false

/-!
# Confinement

Units are written directly into the directory that is asked for.  The name of a
unit holds no slash and is no step that stays or goes back, so the path of a
unit leads into the directory and on to one name in it, and writing the unit
changes what is stored there and nothing else.
-/

namespace AccessorGen

/-! ## Names directly inside a directory -/

namespace Disk

variable {d : Disk} {directory name : String} {place : Place}

/-- The text is the name of a file on any system: there is no backslash in it,
which some systems take for a slash, and no null character. -/
structure IsOrdinaryName (name : String) : Prop extends IsFileName name where
  backslash : '\\' ∉ name.toList
  null : '\x00' ∉ name.toList

/-- The directory is at the place; the empty path stands for the working
directory. -/
structure IsAt (d : Disk) (directory : String) (place : Place) : Prop where
  located : d.locate (if directory = "" then "." else directory) = .ok place
  isDirectory : d.get? place = some .directory

theorem checkPath_eq_ok_iff {path : String} :
    checkPath path = .ok () ↔
      '\x00' ∉ path.toList ∧ path.utf8ByteSize ≤ maxPathBytes ∧ path ≠ "" := by
  unfold checkPath
  split
  · simp_all
  · split
    · rename_i hlong
      simp [Nat.not_le.mpr hlong]
    · rename_i hnull hshort
      split
      · simp_all
      · simp_all

/-- If the path of a file in a directory can be followed, so can the path of the
directory. -/
theorem checkPath_of_joinPath (hname : IsFileName name) (hdirectory : directory ≠ "")
    (h : checkPath (joinPath directory name) = .ok ()) : checkPath directory = .ok () := by
  obtain ⟨rest, hrest⟩ : ∃ rest, joinPath directory name = directory ++ rest := by
    rw [joinPath_eq hname]
    split
    · exact ⟨name, rfl⟩
    · exact ⟨"/" ++ name, String.append_assoc⟩
  rw [hrest, checkPath_eq_ok_iff, String.toList_append, List.mem_append, not_or,
    String.utf8ByteSize_append] at h
  exact checkPath_eq_ok_iff.mpr ⟨h.1.1, by omega, hdirectory⟩

/-- The steps of the files in a directory lead to the directory: a slash at the
end of its path is a step that stays. -/
theorem walk_inside_eq_ok_iff (hdirectory : directory ≠ "")
    (hplace : d.get? place = some .directory) :
    d.walk (inside directory).1 (inside directory).2 = .ok place ↔
      d.walk (route directory).1 (route directory).2 = .ok place := by
  unfold inside
  rw [if_neg hdirectory]
  split
  · rename_i hlast
    obtain ⟨front, hfront⟩ := List.getLast?_eq_some_iff.mp hlast
    have hsteps : (route directory).2 = (front.splitOn '/').map String.ofList ++ [""] := by
      simp only [route, hfront, List.splitOn_append_cons_self, List.splitOn_nil, List.map_append,
        List.map_cons, List.map_nil, String.ofList_nil]
    have hstay : ∀ other : Place, step other "" = other := fun other => by simp [step]
    simp only [hsteps, List.dropLast_concat, walk_concat_eq_ok_iff, hstay]
    constructor
    · intro h
      exact ⟨place, h, hplace, by decide, rfl⟩
    · rintro ⟨_, h, -, -, rfl⟩
      exact h
  · rfl

theorem locate_dot_eq_ok_iff :
    d.locate "." = .ok place ↔ place = home ∧ d.get? place = some .directory := by
  have hdot : d.locate "." = d.walk home ([] ++ ["."]) := rfl
  have hstay : ∀ other : Place, step other "." = other := fun other => by simp [step]
  simp only [hdot, walk_concat_eq_ok_iff, hstay]
  constructor
  · rintro ⟨_, hwalk, hplace, -, rfl⟩
    exact ⟨(Except.ok.inj hwalk).symm, hplace⟩
  · rintro ⟨rfl, hplace⟩
    exact ⟨home, rfl, hplace, by decide, rfl⟩

/-- The path of a file can be followed exactly if it is not too long and there is
a directory around the file. -/
theorem reaches_iff (hname : IsFileName name) :
    d.Reaches directory name place ↔
      checkPath (joinPath directory name) = .ok () ∧ name.utf8ByteSize ≤ maxNameBytes ∧
        d.IsAt directory place := by
  -- Both sides differ in the walk alone, which need not be the same walk.
  have hwalk (hpath : checkPath (joinPath directory name) = .ok ())
      (hplace : d.get? place = some .directory) :
      d.walk (inside directory).1 (inside directory).2 = .ok place ↔
        d.locate (if directory = "" then "." else directory) = .ok place := by
    by_cases hdirectory : directory = ""
    · rw [if_pos hdirectory, locate_dot_eq_ok_iff, inside, if_pos hdirectory]
      simp [walk, hplace, eq_comm]
    · have hlocate : d.locate directory = d.walk (route directory).1 (route directory).2 := by
        rw [locate, checkPath_of_joinPath hname hdirectory hpath]
        rfl
      rw [if_neg hdirectory, hlocate]
      exact walk_inside_eq_ok_iff hdirectory hplace
  constructor
  · intro h
    exact ⟨h.path, h.size, (hwalk h.path h.directory).mp h.walk, h.directory⟩
  · rintro ⟨hpath, hsize, hat⟩
    exact ⟨hpath, hsize, (hwalk hpath hat.isDirectory).mpr hat.located, hat.isDirectory⟩

theorem IsAt.unique {other : Place} (h : d.IsAt directory place) (hother : d.IsAt directory other) :
    place = other :=
  Except.ok.inj (h.located.symm.trans hother.located)

/-- A directory stays where it is when a file is written. -/
theorem IsAt.of_writeText {d' : Disk} {other content : String} (hname : IsFileName name)
    (h : d.writeText (joinPath other name) content = .ok d') (hat : d.IsAt directory place) :
    d'.IsAt directory place where
  located := by
    obtain ⟨_, hpath, hwalk⟩ := bind_eq_ok_iff.mp hat.located
    refine bind_eq_ok_iff.mpr ⟨(), hpath, ?_⟩
    exact walk_of_directories_kept (get?_directory_of_writeText hname h) hwalk
  isDirectory := get?_directory_of_writeText hname h place hat.isDirectory

/-- A path into a directory leads to the name directly inside it. -/
theorem locate_joinPath_eq_ok_iff (hname : IsFileName name) {target : Place} :
    d.locate (joinPath directory name) = .ok target ↔
      checkPath (joinPath directory name) = .ok () ∧ name.utf8ByteSize ≤ maxNameBytes ∧
        ∃ place, d.IsAt directory place ∧ target = place ++ [name] := by
  simp only [locate_eq_ok_iff hname, reaches_iff hname]
  constructor
  · rintro ⟨place, ⟨hpath, hsize, hat⟩, htarget⟩
    exact ⟨hpath, hsize, place, hat, htarget⟩
  · rintro ⟨hpath, hsize, place, hat, htarget⟩
    exact ⟨place, ⟨hpath, hsize, hat⟩, htarget⟩

/-- A text that is written into a directory is put directly inside it. -/
theorem exists_put_of_writeText {d' : Disk} {content : String} (hname : IsFileName name)
    (h : d.writeText (joinPath directory name) content = .ok d') :
    ∃ place, d.IsAt directory place ∧ d' = d.put (place ++ [name]) (.text content) := by
  obtain ⟨place, hreaches, -, hput⟩ := (writeText_eq_ok_iff hname).mp h
  exact ⟨place, ((reaches_iff hname).mp hreaches).2.2, hput⟩

end Disk

/-! ## Writing units -/

namespace Rehearsal

variable {r r' : Rehearsal} {directory : String}

/-- Either the first unit cannot be written and nothing is, or it is written and
the others are tried. -/
theorem exists_of_perform_writeAll_cons {u : SourceUnit} {rest : List SourceUnit}
    {result : Except RunError (List String)}
    (h : r.perform (Run.writeAll host directory (u :: rest)) = (result, r')) :
    r' = r ∨
      ∃ disk others, r.disk.writeText (joinPath directory u.hintName) u.text = .ok disk ∧
        ({ r with disk := disk } : Rehearsal).perform (Run.writeAll host directory rest) =
          (others, r') := by
  rcases perform_bind_eq_iff.mp h with ⟨e, hwrite, -⟩ | ⟨_, between, hwrite, h⟩
  · left
    rw [perform_writeText] at hwrite
    split at hwrite
    · simp at hwrite
    · exact (congrArg Prod.snd hwrite).symm
  · right
    obtain ⟨disk, hdisk, rfl⟩ := perform_writeText_eq_ok_iff.mp hwrite
    rcases perform_bind_eq_iff.mp h with ⟨e, hrest, -⟩ | ⟨paths, last, hrest, hlast⟩
    · exact ⟨disk, _, hdisk, hrest⟩
    · obtain rfl : last = r' := congrArg Prod.snd hlast
      exact ⟨disk, _, hdisk, hrest⟩

/-- Whether units are written or a fault stops the run, nothing changes but what
is stored under their names directly inside the directory. -/
theorem exists_of_get?_perform_writeAll_ne {units : List SourceUnit}
    {result : Except RunError (List String)} {p : Place}
    (hunits : ∀ u ∈ units, Disk.IsFileName u.hintName)
    (h : r.perform (Run.writeAll host directory units) = (result, r'))
    (hp : r'.disk.get? p ≠ r.disk.get? p) :
    ∃ place, r.disk.IsAt directory place ∧ ∃ u ∈ units, p = place ++ [u.hintName] := by
  induction units generalizing r result with
  | nil =>
    obtain rfl : r = r' := congrArg Prod.snd h
    exact absurd rfl hp
  | cons u rest ih =>
    rcases exists_of_perform_writeAll_cons h with rfl | ⟨disk, others, hwrite, hrest⟩
    · exact absurd rfl hp
    · have hu := hunits u List.mem_cons_self
      obtain ⟨place, hat, hput⟩ := Disk.exists_put_of_writeText hu hwrite
      by_cases hsame : p = place ++ [u.hintName]
      · exact ⟨place, hat, u, List.mem_cons_self, hsame⟩
      · have hkept : disk.get? p = r.disk.get? p := by
          rw [hput, Disk.get?_put_of_ne _ hsame]
        obtain ⟨other, hother, v, hv, hpv⟩ :=
          ih (fun v hv => hunits v (List.mem_cons_of_mem u hv)) hrest (by rwa [hkept])
        -- The directory has not moved since.
        obtain rfl := (hat.of_writeText hu hwrite).unique hother
        exact ⟨place, hat, v, List.mem_cons_of_mem u hv, hpv⟩

/-- The same, with the directory created first. -/
theorem exists_of_get?_perform_writeUnits_ne {units : List SourceUnit}
    {result : Except RunError (List String)} {p : Place}
    (hunits : ∀ u ∈ units, Disk.IsFileName u.hintName)
    (h : r.perform (Run.writeUnits host directory units) = (result, r'))
    (hp : r'.disk.get? p ≠ (r.disk.makeDirectories directory).2.get? p) :
    ∃ place, (r.disk.makeDirectories directory).2.IsAt directory place ∧
      ∃ u ∈ units, p = place ++ [u.hintName] := by
  have hmade : r.perform (Run.demand (.unwritable directory) (host.makeDirectories directory)) =
      ((r.disk.makeDirectories directory).1.mapError (.unwritable directory),
        { r with disk := (r.disk.makeDirectories directory).2 }) :=
    perform_demand rfl
  rcases perform_bind_eq_iff.mp h with ⟨e, hfails, -⟩ | ⟨_, start, hstart, h⟩
  · obtain rfl := congrArg Prod.snd (hmade.symm.trans hfails)
    exact absurd rfl hp
  · obtain rfl := congrArg Prod.snd (hmade.symm.trans hstart)
    rcases perform_bind_eq_iff.mp h with ⟨e, hfails, -⟩ | ⟨paths, written, hwritten, h⟩
    · exact exists_of_get?_perform_writeAll_ne hunits hfails hp
    · -- What is left of the run is a note in the log, which the disk does not see.
      obtain rfl : { written with events := written.events ++ [_] } = r' := congrArg Prod.snd h
      exact exists_of_get?_perform_writeAll_ne hunits hwritten hp

end Rehearsal

/-! ## The units of a snapshot -/

theorem TypeHeader.isOrdinaryName_hintName {settings : Settings} {h : TypeHeader}
    (hh : h.issues = []) (hslash : '/' ∉ settings.fileSuffix.toList)
    (hbackslash : '\\' ∉ settings.fileSuffix.toList)
    (hnull : '\x00' ∉ settings.fileSuffix.toList) : Disk.IsOrdinaryName (h.hintName settings) where
  toIsFileName := isFileName_hintName hh hslash
  backslash := not_mem_hintName hh (by decide) (by decide) (by decide +kernel) hbackslash
  null := not_mem_hintName hh (by decide) (by decide) (by decide +kernel) hnull

namespace Settings

variable (settings : Settings) {s : Snapshot}

/-- Whatever the settings are, as long as the suffix holds no slash of either
kind and no null character, the units of the types of a valid snapshot have
ordinary names, with no colon in front of the suffix, and the path of such a name
in a directory leads directly into that directory: to read and to write. -/
theorem sources_confined (hslash : '/' ∉ settings.fileSuffix.toList)
    (hbackslash : '\\' ∉ settings.fileSuffix.toList)
    (hnull : '\x00' ∉ settings.fileSuffix.toList) (hs : s.validate = .ok ()) {u : AccessorUnit}
    (hu : u ∈ (settings.generate s).sources) :
    Disk.IsOrdinaryName u.unit.hintName ∧
      (∃ stem, u.unit.hintName = stem ++ settings.fileSuffix ∧ ':' ∉ stem.toList) ∧
      (∀ (d : Disk) (directory : String) (target : Place),
        d.locate (joinPath directory u.unit.hintName) = .ok target ↔
          Disk.checkPath (joinPath directory u.unit.hintName) = .ok () ∧
            u.unit.hintName.utf8ByteSize ≤ Disk.maxNameBytes ∧
            ∃ place, d.IsAt directory place ∧ target = place ++ [u.unit.hintName]) ∧
      ∀ (d d' : Disk) (directory content : String),
        d.writeText (joinPath directory u.unit.hintName) content = .ok d' →
          ∃ place, d.IsAt directory place ∧
            d' = d.put (place ++ [u.unit.hintName]) (.text content) := by
  have hvalid := settings.issues_of_mem_sources hs hu
  have hname : u.unit.hintName = u.header.hintName settings := by
    obtain ⟨g, -, rfl⟩ := List.mem_map.mp hu
    rfl
  have hordinary : Disk.IsOrdinaryName u.unit.hintName := by
    rw [hname]
    exact TypeHeader.isOrdinaryName_hintName hvalid hslash hbackslash hnull
  refine ⟨hordinary, ⟨_, hname, ?_⟩, ?_, ?_⟩
  · exact TypeHeader.not_mem_stem hvalid (by decide) (by decide) (by decide +kernel)
  · intro d directory target
    exact Disk.locate_joinPath_eq_ok_iff hordinary.toIsFileName
  · intro d d' directory content hwrite
    exact Disk.exists_put_of_writeText hordinary.toIsFileName hwrite

/-- A run that writes all units of a valid snapshot creates the directory and
changes nothing else but files directly inside it, however it ends, if the
settings bring no slash into the names. -/
theorem writeUnits_confined (hs : s.validate = .ok ()) (hclass : '/' ∉ settings.className.toList)
    (hsuffix : '/' ∉ settings.fileSuffix.toList) {r r' : Rehearsal} {directory : String}
    {result : Except RunError (List String)}
    (h : r.perform (Run.writeUnits Rehearsal.host directory (settings.generate s).units) =
      (result, r'))
    {p : Place} (hp : r'.disk.get? p ≠ (r.disk.makeDirectories directory).2.get? p) :
    ∃ place, (r.disk.makeDirectories directory).2.IsAt directory place ∧
      ∃ u ∈ (settings.generate s).units, p = place ++ [u.hintName] :=
  Rehearsal.exists_of_get?_perform_writeUnits_ne
    (fun _ hu => isFileName_hintName_of_mem_units hs hclass hsuffix hu) h hp

end Settings

/-! ## A name with all that can stand in one -/

namespace Workshop

/-- The field is declared in a type whose names are no plain words. -/
def field : Field :=
  ⟨"höhe", .named "int" [], ⟨some "@base.Größe", "@class", .structType, ["T", "U"]⟩,
    [⟨"AutoProp", []⟩], none⟩

def snapshot : Snapshot := ⟨[], [field]⟩

/-- Settings with a colon in the suffix. -/
def settings : Settings := { fileSuffix := ":gen.cs" }

/-- The accessor of the field. -/
def group : AccessorGroup :=
  ⟨field.container, [⟨"Höhe", "höhe", field.type, field.type, .publicGet, .direct, none⟩]⟩

/-- The unit is written directly into the directory. -/
theorem group_confined :
    snapshot.validate = .ok () ∧ group.unit settings ∈ (settings.generate snapshot).sources ∧
      (group.unit settings).unit.hintName = "@base.Größe.@class_2:gen.cs" ∧
      Disk.IsOrdinaryName (group.unit settings).unit.hintName ∧
      ∃ d' place,
        Boxes.disk.writeText (joinPath "out/" (group.unit settings).unit.hintName) "" = .ok d' ∧
        Boxes.disk.IsAt "out/" place ∧
        d' = Boxes.disk.put (place ++ [(group.unit settings).unit.hintName]) (.text "") := by
  have hvalid : snapshot.validate = .ok () := by rfl
  have hgroups : settings.groups snapshot = [group] := by rfl
  have hmem : group.unit settings ∈ (settings.generate snapshot).sources := by
    simp [Settings.generate, hgroups]
  have hname : (group.unit settings).unit.hintName = "@base.Größe.@class_2:gen.cs" := by rfl
  obtain ⟨hordinary, -, -, hwrite⟩ :=
    settings.sources_confined (by decide) (by decide) (by decide) hvalid hmem
  have hwritten : Boxes.disk.writeText (joinPath "out/" (group.unit settings).unit.hintName) "" =
      .ok (Boxes.disk.put ["work", "out", "@base.Größe.@class_2:gen.cs"] (.text "")) := by
    rfl
  obtain ⟨place, hat, hput⟩ := hwrite _ _ _ _ hwritten
  exact ⟨hvalid, hmem, hname, hordinary, _, place, hwritten, hat, hput⟩

end Workshop

end AccessorGen

import AccessorGen.Disk
import Mathlib.Data.List.Basic

set_option autoImplicit false

/-!
# Files

What is written to a file can be read there, and the files of other names in the
same directory stay as they are.  The path of a file leads to its directory
first, whatever the name of the file is, and writing makes no directory
disappear, so the paths lead to the same places before and after.
-/

namespace AccessorGen

theorem bind_eq_ok_iff {ε α β : Type} {x : Except ε α} {f : α → Except ε β} {b : β} :
    (x >>= f) = .ok b ↔ ∃ a, x = .ok a ∧ f a = .ok b := by
  cases x <;> simp [bind, Except.bind]

namespace Disk

/-! ## Paths into a directory -/

/-- The text is the name of a file: one step, and not one that stays or goes
back. -/
structure IsFileName (name : String) : Prop where
  isName : isName name = true
  slash : '/' ∉ name.toList

/-- The steps that stay or go back hold nothing but dots. -/
theorem isName_of_mem {name : String} {c : Char} (hc : c ∈ name.toList) (hdot : c ≠ '.') :
    isName name = true := by
  simp only [isName, Bool.and_eq_true, bne_iff_ne]
  refine ⟨⟨?_, ?_⟩, ?_⟩ <;>
  · rintro rfl
    simp [hdot] at hc

/-- Where the paths of files in a directory start, and their steps up to the
name of the file. -/
def inside (directory : String) : Place × List String :=
  if directory = "" then (home, [])
  else if directory.toList.getLast? = some '/' then
    ((route directory).1, (route directory).2.dropLast)
  else route directory

theorem IsFileName.toList_ne_nil {name : String} (h : IsFileName name) : name.toList ≠ [] := by
  intro hnil
  have hempty : name = "" := String.toList_eq_nil_iff.mp hnil
  have hname := h.isName
  rw [hempty] at hname
  exact absurd hname (by decide)

theorem joinPath_eq {directory name : String} (h : IsFileName name) :
    joinPath directory name =
      if directory = "" || directory.toList.getLast? == some '/' then directory ++ name
      else directory ++ "/" ++ name := by
  unfold joinPath
  split
  · rename_i hslash
    exact absurd (hslash ▸ List.mem_cons_self) h.slash
  · rfl

/-- A path into a directory ends with the name of the file. -/
theorem exists_toList_joinPath (directory : String) {name : String} (h : IsFileName name) :
    ∃ front, (joinPath directory name).toList = front ++ name.toList := by
  rw [joinPath_eq h]
  split
  · exact ⟨directory.toList, by simp⟩
  · exact ⟨(directory ++ "/").toList, by simp⟩

theorem dropSlashes_joinPath {directory name : String} (h : IsFileName name) :
    dropSlashes (joinPath directory name) = joinPath directory name := by
  obtain ⟨front, hfront⟩ := exists_toList_joinPath directory h
  obtain ⟨c, cs, hcs⟩ : ∃ c cs, name.toList.reverse = c :: cs :=
    List.exists_cons_of_ne_nil (by simpa using h.toList_ne_nil)
  have hc : c ≠ '/' := by
    rintro rfl
    exact h.slash (List.mem_reverse.mp (hcs ▸ List.mem_cons_self))
  have hback : (joinPath directory name).toList.reverse.dropWhile (· == '/') =
      (joinPath directory name).toList.reverse := by
    rw [hfront, List.reverse_append, hcs, List.cons_append,
      List.dropWhile_cons_of_neg (by simpa using hc)]
  rw [dropSlashes, hback, List.reverse_reverse, String.ofList_toList]

theorem route_fst (path : String) :
    (route path).1 = if path.toList.head? = some '/' then [] else home := by
  unfold route
  cases path.toList with
  | nil => rfl
  | cons c cs =>
    by_cases hc : c = '/'
    · simp [hc]
    · simp [hc]

/-- Behind a slash the name of a file is one step. -/
theorem splitOn_append_fileName (front : List Char) {name : String} (h : IsFileName name) :
    (front ++ '/' :: name.toList).splitOn '/' = front.splitOn '/' ++ [name.toList] := by
  rw [List.splitOn_append_cons_self, List.splitOn_eq_singleton h.slash]

/-- The steps of a path into a directory are those of the directory and the name
of the file. -/
theorem route_joinPath {directory name : String} (h : IsFileName name) :
    route (joinPath directory name) = ((inside directory).1, (inside directory).2 ++ [name]) := by
  rw [joinPath_eq h]
  unfold inside
  by_cases hempty : directory = ""
  · have hhead : name.toList.head? ≠ some '/' :=
      fun hslash => h.slash (List.mem_of_mem_head? hslash)
    refine Prod.ext ?_ ?_
    · simp [hempty, route_fst, hhead]
    · simp [hempty, route, List.splitOn_eq_singleton h.slash]
  · have hne : directory.toList ≠ [] := by simpa using hempty
    by_cases hlast : directory.toList.getLast? = some '/'
    · -- The slash at the end is the one before the name.
      obtain ⟨front, hfront⟩ := List.getLast?_eq_some_iff.mp hlast
      rw [if_pos (by simp [hlast]), if_neg hempty, if_pos hlast]
      refine Prod.ext ?_ ?_
      · rw [route_fst, route_fst, String.toList_append, List.head?_append_of_ne_nil _ hne]
      · have hdirectory : directory.toList.splitOn '/' = front.splitOn '/' ++ [[]] := by
          rw [hfront, List.splitOn_append_cons_self, List.splitOn_nil]
        simp only [route, String.toList_append, hdirectory, List.map_append, List.map_cons,
          List.map_nil, List.dropLast_concat]
        rw [hfront, List.append_assoc, List.singleton_append, splitOn_append_fileName front h]
        simp
    · rw [if_neg (by simp [hempty, hlast]), if_neg hempty, if_neg hlast]
      refine Prod.ext ?_ ?_
      · rw [route_fst, route_fst, String.toList_append, String.toList_append, List.append_assoc,
          List.head?_append_of_ne_nil _ hne]
      · have hname : (directory ++ "/" ++ name).toList =
            directory.toList ++ '/' :: name.toList := by simp
        simp [route, hname, splitOn_append_fileName directory.toList h]

/-! ## Walking -/

theorem walk_append (d : Disk) (place : Place) (steps more : List String) :
    d.walk place (steps ++ more) = (d.walk place steps).bind (d.walk · more) := by
  induction steps generalizing place with
  | nil => rfl
  | cons name rest ih =>
    rw [List.cons_append, walk, walk]
    split
    · split
      · rfl
      · exact ih _
    · rfl
    · rfl

/-- Where there are more directories, a walk that was possible leads to the same
place. -/
theorem walk_of_directories_kept {d d' : Disk}
    (hkept : ∀ place, d.get? place = some .directory → d'.get? place = some .directory)
    {place target : Place} {steps : List String} (h : d.walk place steps = .ok target) :
    d'.walk place steps = .ok target := by
  induction steps generalizing place with
  | nil => exact h
  | cons name rest ih =>
    unfold walk at h ⊢
    split at h
    · rename_i hdirectory
      rw [hkept place hdirectory]
      split at h
      · simp at h
      · rename_i hsize
        simp only [if_neg hsize]
        exact ih h
    · simp at h
    · simp at h

/-- One more step can be taken from a directory, if it is not too long. -/
theorem walk_concat_eq_ok_iff {d : Disk} {start target : Place} {steps : List String}
    {name : String} :
    d.walk start (steps ++ [name]) = .ok target ↔
      ∃ place, d.walk start steps = .ok place ∧ d.get? place = some .directory ∧
        name.utf8ByteSize ≤ maxNameBytes ∧ target = step place name := by
  rw [walk_append]
  cases hwalk : d.walk start steps with
  | error fault => simp [Except.bind]
  | ok place =>
    simp only [Except.bind, walk, Except.ok.injEq, exists_eq_left']
    constructor
    · intro h
      split at h
      · rename_i hdirectory
        split at h
        · simp at h
        · rename_i hsize
          exact ⟨hdirectory, Nat.not_lt.mp hsize, (Except.ok.inj h).symm⟩
      · simp at h
      · simp at h
    · rintro ⟨hdirectory, hsize, rfl⟩
      rw [hdirectory]
      exact if_neg (Nat.not_lt.mpr hsize)

theorem step_of_isName {name : String} (h : isName name = true) (place : Place) :
    step place name = place ++ [name] := by
  have hne : name ≠ "" ∧ name ≠ "." ∧ name ≠ ".." := by simpa [isName, and_assoc] using h
  simp [step, hne]

/-- The last step is taken from the directory that the others lead to. -/
theorem approach_eq_ok_iff {d : Disk} {start : Place} {steps : List String} {name : String}
    {found : Place × String} :
    d.approach start (steps ++ [name]) = .ok found ↔
      ∃ place, d.walk start steps = .ok place ∧ d.get? place = some .directory ∧
        found = (place, name) := by
  have hdot : ".".utf8ByteSize ≤ maxNameBytes := by decide
  have hstay : ∀ place : Place, step place "." = place := fun place => by simp [step]
  simp only [approach, bind_eq_ok_iff, List.dropLast_concat, List.getLastD_concat,
    walk_concat_eq_ok_iff, hdot, hstay, true_and]
  constructor
  · rintro ⟨place, ⟨_, hwalk, hdirectory, rfl⟩, hfound⟩
    exact ⟨place, hwalk, hdirectory, (Except.ok.inj hfound).symm⟩
  · rintro ⟨place, hwalk, hdirectory, rfl⟩
    exact ⟨place, ⟨place, hwalk, hdirectory, rfl⟩, rfl⟩

theorem create_eq_ok_iff {d d' : Disk} {place : Place} {name : String} {entry : DiskEntry}
    {stays : DiskEntry → Option AccessFault} :
    d.create place name entry stays = .ok d' ↔
      name.utf8ByteSize ≤ maxNameBytes ∧ (d.get? (place ++ [name])).bind stays = none ∧
        d' = d.put (place ++ [name]) entry := by
  unfold create
  by_cases hsize : maxNameBytes < name.utf8ByteSize
  · simp [hsize, Nat.not_le.mpr hsize]
  · cases hstays : (d.get? (place ++ [name])).bind stays with
    | none => simp [hsize, Nat.not_lt.mp hsize, eq_comm]
    | some fault => simp [hsize]

/-- The path of a file can be followed, and it leads into that directory. -/
structure Reaches (d : Disk) (directory name : String) (place : Place) : Prop where
  path : checkPath (joinPath directory name) = .ok ()
  size : name.utf8ByteSize ≤ maxNameBytes
  walk : d.walk (inside directory).1 (inside directory).2 = .ok place
  directory : d.get? place = some .directory

theorem locate_eq_ok_iff {d : Disk} {directory name : String} {target : Place}
    (hname : IsFileName name) :
    d.locate (joinPath directory name) = .ok target ↔
      ∃ place, d.Reaches directory name place ∧ target = place ++ [name] := by
  simp only [locate, bind_eq_ok_iff, route_joinPath hname, walk_concat_eq_ok_iff,
    step_of_isName hname.isName]
  constructor
  · rintro ⟨_, hpath, place, hwalk, hdirectory, hsize, rfl⟩
    exact ⟨place, ⟨hpath, hsize, hwalk, hdirectory⟩, rfl⟩
  · rintro ⟨place, hreaches, rfl⟩
    exact ⟨(), hreaches.path, place, hreaches.walk, hreaches.directory, hreaches.size, rfl⟩

/-! ## Reading what was written -/

/-- A text can be read if the path leads into a directory that holds it. -/
theorem readText_eq_ok_iff {d : Disk} {directory name content : String} (hname : IsFileName name) :
    d.readText (joinPath directory name) = .ok content ↔
      ∃ place, d.Reaches directory name place ∧
        d.get? (place ++ [name]) = some (.text content) := by
  simp only [readText, bind_eq_ok_iff, locate_eq_ok_iff hname]
  constructor
  · rintro ⟨_, ⟨place, hreaches, rfl⟩, h⟩
    refine ⟨place, hreaches, ?_⟩
    split at h
    · rename_i found hfound
      rw [hfound, Except.ok.inj h]
    all_goals simp at h
  · rintro ⟨place, hreaches, hget⟩
    exact ⟨_, ⟨place, hreaches, rfl⟩, by rw [hget]⟩

/-- A text is put into the directory that the path leads into, unless a
directory has that name already. -/
theorem writeText_eq_ok_iff {d d' : Disk} {directory name content : String}
    (hname : IsFileName name) :
    d.writeText (joinPath directory name) content = .ok d' ↔
      ∃ place, d.Reaches directory name place ∧ d.get? (place ++ [name]) ≠ some .directory ∧
        d' = d.put (place ++ [name]) (.text content) := by
  have hfile : (joinPath directory name ≠ joinPath directory name ∨ (!isName name) = true) =
      False := by
    simp [hname.isName]
  simp only [writeText, bind_eq_ok_iff, dropSlashes_joinPath hname, route_joinPath hname,
    approach_eq_ok_iff]
  constructor
  · rintro ⟨_, hpath, _, ⟨place, hwalk, hdirectory, rfl⟩, h⟩
    simp only [hfile, if_false, create_eq_ok_iff] at h
    obtain ⟨hsize, hstays, rfl⟩ := h
    refine ⟨place, ⟨hpath, hsize, hwalk, hdirectory⟩, ?_, rfl⟩
    intro hget
    simp [hget] at hstays
  · rintro ⟨place, hreaches, hget, rfl⟩
    refine ⟨(), hreaches.path, _, ⟨place, hreaches.walk, hreaches.directory, rfl⟩, ?_⟩
    simp only [hfile, if_false]
    refine create_eq_ok_iff.mpr ⟨hreaches.size, ?_, rfl⟩
    cases hentry : d.get? (place ++ [name]) with
    | none => rfl
    | some entry =>
      cases entry with
      | directory => exact absurd hentry hget
      | text content => rfl
      | binary => rfl

/-- Writing a file makes no directory disappear. -/
theorem get?_directory_of_writeText {d d' : Disk} {directory name content : String}
    (hname : IsFileName name) (h : d.writeText (joinPath directory name) content = .ok d')
    (place : Place) (hplace : d.get? place = some .directory) :
    d'.get? place = some .directory := by
  obtain ⟨target, -, hget, rfl⟩ := (writeText_eq_ok_iff hname).mp h
  rw [get?_put_of_ne]
  · exact hplace
  · rintro rfl
    exact hget hplace

theorem Reaches.of_writeText {d d' : Disk} {directory name content other : String} {place : Place}
    (hname : IsFileName name) (h : d.writeText (joinPath directory name) content = .ok d')
    (hreaches : d.Reaches directory other place) : d'.Reaches directory other place where
  path := hreaches.path
  size := hreaches.size
  walk := walk_of_directories_kept (get?_directory_of_writeText hname h) hreaches.walk
  directory := get?_directory_of_writeText hname h place hreaches.directory

/-- A file holds what was written to it. -/
theorem readText_writeText_self {d d' : Disk} {directory name content : String}
    (hname : IsFileName name) (h : d.writeText (joinPath directory name) content = .ok d') :
    d'.readText (joinPath directory name) = .ok content := by
  obtain ⟨place, hreaches, -, rfl⟩ := (writeText_eq_ok_iff hname).mp h
  refine (readText_eq_ok_iff hname).mpr ⟨place, hreaches.of_writeText hname h, ?_⟩
  exact get?_put_self d (by simp) (.text content)

/-- Writing a file leaves the files of other names in its directory alone. -/
theorem readText_writeText_of_ne {d d' : Disk} {directory name content other kept : String}
    (hname : IsFileName name) (hother : IsFileName other) (hne : other ≠ name)
    (h : d.writeText (joinPath directory name) content = .ok d')
    (hread : d.readText (joinPath directory other) = .ok kept) :
    d'.readText (joinPath directory other) = .ok kept := by
  obtain ⟨place, hreaches, hkept⟩ := (readText_eq_ok_iff hother).mp hread
  refine (readText_eq_ok_iff hother).mpr ⟨place, hreaches.of_writeText hname h, ?_⟩
  obtain ⟨target, hreaches', -, rfl⟩ := (writeText_eq_ok_iff hname).mp h
  -- Both paths lead into one directory, so the places differ in the name alone.
  obtain rfl : place = target := Except.ok.inj (hreaches.walk.symm.trans hreaches'.walk)
  rw [get?_put_of_ne]
  · exact hkept
  · simpa using hne

/-- A file of that name can be written into the directory, which is at the
place. -/
structure Accepts (d : Disk) (directory : String) (place : Place) (name : String) : Prop where
  fileName : IsFileName name
  reaches : d.Reaches directory name place
  free : d.get? (place ++ [name]) ≠ some .directory

theorem Accepts.writeText {d : Disk} {directory name : String} {place : Place}
    (h : d.Accepts directory place name) (content : String) :
    d.writeText (joinPath directory name) content =
      .ok (d.put (place ++ [name]) (.text content)) :=
  (writeText_eq_ok_iff h.fileName).mpr ⟨place, h.reaches, h.free, rfl⟩

/-- Whatever can be written into a directory can still be written when something
else has been. -/
theorem Accepts.put {d : Disk} {directory name other : String} {place : Place}
    (h : d.Accepts directory place name) (content : String)
    (hother : d.Accepts directory place other) :
    (d.put (place ++ [name]) (.text content)).Accepts directory place other where
  fileName := hother.fileName
  reaches := hother.reaches.of_writeText h.fileName (h.writeText content)
  free := by
    by_cases hsame : other = name
    · rw [hsame, get?_put_self d (by simp)]
      simp
    · rw [get?_put_of_ne d (by simpa using hsame)]
      exact hother.free

end Disk

end AccessorGen

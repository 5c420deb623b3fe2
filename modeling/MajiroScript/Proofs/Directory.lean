import MajiroScript.Directory
import MajiroScript.Proofs.Outcome

/-! What writing a file does to a directory.  The content stands at the path it
was written to, and no other place is touched: paths lead where they led before,
because no folder comes or goes. -/
namespace MajiroScript.Directory

open Outcome

def find? (directory : Directory) (path : String) : Option Node :=
  match directory.locate path with
  | .ok way => directory.node? way
  | .error _ => none

theorem find?_of_locate {directory : Directory} {path : String} {way : Way}
    (h : directory.locate path = .ok way) : directory.find? path = directory.node? way := by
  rw [find?, h]

theorem contains_eq_isSome_find? (directory : Directory) (path : String) :
    directory.contains path = (directory.find? path).isSome := by
  unfold contains find?
  cases directory.locate path with
  | error error => rfl
  | ok way => rfl

theorem read_eq_ok_iff {directory : Directory} {path : String} {content : Bytes} :
    directory.read path = .ok content ↔ directory.find? path = some (.file content) := by
  unfold read find?
  rw [bind_eq_ok_iff]
  cases directory.locate path with
  | error error => simp
  | ok way =>
      simp only [Except.ok.injEq, exists_eq_left']
      cases directory.node? way with
      | none => simp
      | some node =>
          cases node with
          | file found => simp
          | folder => simp

theorem lookup_filter_of_ne {other way : Way} (h : other ≠ way) (nodes : List (Way × Node)) :
    (nodes.filter fun (place, _) => place ≠ way).lookup other = nodes.lookup other := by
  induction nodes with
  | nil => rfl
  | cons entry nodes ih =>
      obtain ⟨place, node⟩ := entry
      by_cases hplace : place = way
      · have hother : (other == place) = false := by
          rw [hplace]
          exact beq_eq_false_iff_ne.mpr h
        rw [List.filter_cons_of_neg (by simpa using hplace), ih, List.lookup_cons, hother]
      · rw [List.filter_cons_of_pos (by simpa using hplace), List.lookup_cons, List.lookup_cons, ih]

theorem node?_setFile {directory : Directory} {way : Way}
    (h : directory.node? way ≠ some .folder) (content : Bytes) (other : Way) :
    (directory.setFile way content).node? other =
      if other = way then some (.file content) else directory.node? other := by
  by_cases hother : other = way
  · subst hother
    have hplace : ¬ (other = ["/"] ∨ other.all (· = "..")) := by
      intro hfixed
      exact h (if_pos hfixed)
    rw [if_pos rfl, node?, if_neg hplace, setFile, List.lookup_cons_self]
  · have hne : (other == way) = false := beq_eq_false_iff_ne.mpr hother
    rw [if_neg hother, node?, node?, setFile, List.lookup_cons, hne, lookup_filter_of_ne hother]

theorem follow_of_folders {directory other : Directory}
    (h : ∀ way, directory.node? way = some .folder → other.node? way = some .folder)
    {way place : Way} {names : List String} (hfollow : directory.follow way names = .ok place) :
    other.follow way names = .ok place := by
  -- Each name only asks whether the place before it is a folder.
  induction names generalizing way with
  | nil => exact hfollow
  | cons name names ih =>
      unfold follow at hfollow ⊢
      split at hfollow
      · rename_i hfolder
        rw [h way hfolder]
        dsimp only
        split at hfollow
        · contradiction
        · rename_i hshort
          rw [if_neg hshort]
          exact ih hfollow
      · contradiction
      · contradiction

theorem locate_of_folders {directory other : Directory}
    (h : ∀ way, directory.node? way = some .folder → other.node? way = some .folder)
    {path : String} {place : Way} (hlocate : directory.locate path = .ok place) :
    other.locate path = .ok place := by
  unfold locate at hlocate ⊢
  rw [bind_eq_ok_iff] at hlocate ⊢
  obtain ⟨checked, hchecked, hfollow⟩ := hlocate
  exact ⟨checked, hchecked, follow_of_folders h hfollow⟩

theorem locate_of_locateNew {directory : Directory} {path : String} {way : Way}
    (h : directory.locateNew path = .ok way) : directory.locate path = .ok way := by
  unfold locateNew at h
  obtain ⟨checked, hchecked, h⟩ := bind_eq_ok_iff.mp h
  split at h
  · obtain ⟨_, -, h⟩ := bind_eq_ok_iff.mp h
    contradiction
  · rename_i hslash
    refine bind_eq_ok_iff.mpr ⟨checked, hchecked, ?_⟩
    rw [if_neg hslash, List.append_nil]
    exact h

theorem write_eq_ok_iff {directory after : Directory} {path : String} {content : Bytes} :
    directory.write path content = .ok after ↔
      ∃ way, directory.locateNew path = .ok way ∧ directory.node? way ≠ some .folder ∧
        directory.setFile way content = after := by
  unfold write
  rw [bind_eq_ok_iff]
  refine exists_congr fun way => and_congr_right fun _ => ?_
  split
  · rename_i hfolder
    simp [hfolder]
  · rename_i hfile
    simp only [Except.ok.injEq, ne_eq]
    exact ⟨fun h => ⟨hfile, h⟩, And.right⟩

section Write

variable {directory after : Directory} {output : String} {content : Bytes}

/-- Writing changes one place, which the path of the file leads to before and
after. -/
theorem exists_of_write (h : directory.write output content = .ok after) :
    ∃ place, directory.locate output = .ok place ∧
      (∀ path way, after.locate path = .ok way ↔ directory.locate path = .ok way) ∧
      ∀ way, after.node? way =
        if way = place then some (.file content) else directory.node? way := by
  obtain ⟨place, hplace, hfile, rfl⟩ := write_eq_ok_iff.mp h
  have hnode := node?_setFile hfile content
  -- A file comes where no folder was, so all paths lead where they led.
  have hfolders : ∀ way, (directory.setFile place content).node? way = some .folder ↔
      directory.node? way = some .folder := by
    intro way
    rw [hnode]
    split
    · rename_i heq
      simp [heq, hfile]
    · rfl
  refine ⟨place, locate_of_locateNew hplace, fun path way => ⟨?_, ?_⟩, hnode⟩
  · exact locate_of_folders fun way => (hfolders way).mp
  · exact locate_of_folders fun way => (hfolders way).mpr

theorem find?_of_write (h : directory.write output content = .ok after) (path : String) :
    after.find? path =
      if after.locate path = after.locate output then some (.file content)
      else directory.find? path := by
  obtain ⟨place, hplace, hlocate, hnode⟩ := exists_of_write h
  rw [(hlocate output place).mpr hplace]
  cases hpath : after.locate path with
  | error error =>
      have hbefore : directory.find? path = none := by
        unfold find?
        split
        · rename_i way hway
          rw [(hlocate path way).mpr hway] at hpath
          contradiction
        · rfl
      rw [find?, hpath, hbefore]
      simp
  | ok way =>
      rw [find?_of_locate hpath, find?_of_locate ((hlocate path way).mp hpath), hnode]
      simp only [Except.ok.injEq]

theorem read_of_write (h : directory.write output content = .ok after) :
    after.read output = .ok content := by
  rw [read_eq_ok_iff, find?_of_write h, if_pos rfl]

theorem find?_of_write_of_absent (h : directory.write output content = .ok after)
    (habsent : directory.contains output = false) {path : String}
    (hpath : directory.contains path = true) : after.find? path = directory.find? path := by
  obtain ⟨place, hplace, hlocate, -⟩ := exists_of_write h
  rw [find?_of_write h, if_neg]
  intro hsame
  have hbefore : directory.locate path = directory.locate output := by
    rw [hplace]
    exact (hlocate path place).mp (hsame.trans ((hlocate output place).mpr hplace))
  rw [contains, hbefore] at hpath
  rw [contains] at habsent
  exact Bool.false_ne_true (habsent.symm.trans hpath)

end Write

/-- Whether a file can be created at a path: there is a place for it, and
nothing stands there or a file that may be replaced. -/
def Creatable (directory : Directory) (force : Bool) (path : String) : Prop :=
  ∃ way, directory.locateNew path = .ok way ∧
    (directory.node? way = none ∨
      force = true ∧ ∃ content, directory.node? way = some (.file content))

theorem Creatable.exists_write {directory : Directory} {force : Bool} {path : String}
    (h : directory.Creatable force path) (content : Bytes) :
    ∃ after, directory.write path content = .ok after := by
  obtain ⟨way, hway, hnode⟩ := h
  refine ⟨_, write_eq_ok_iff.mpr ⟨way, hway, ?_, rfl⟩⟩
  obtain hnone | ⟨-, found, hfile⟩ := hnode
  · simp [hnone]
  · simp [hfile]

theorem Creatable.contains_imp {directory : Directory} {force : Bool} {path : String}
    (h : directory.Creatable force path) (hpath : directory.contains path = true) :
    force = true := by
  obtain ⟨way, hway, hnode⟩ := h
  rw [contains_eq_isSome_find?, find?_of_locate (locate_of_locateNew hway)] at hpath
  obtain hnone | ⟨hforce, -⟩ := hnode
  · simp [hnone] at hpath
  · exact hforce

end MajiroScript.Directory

import StationBench.Files
import StationBench.Proofs.Except
import StationBench.Proofs.Lookup
/-!
# Files that are written and read again

What can be done with a name depends on where there are directories, files and devices, but not on
what the files hold: files that are alike in this way answer alike (`Files.Alike.save`). A file that
was saved can be read under its name, and holds what was saved (`Files.read_of_writable`), unless it
is a device.
-/
namespace StationBench.Files

/-! ## What is at a place -/

section
variable (fs : Files) (place p : Place) (text : String)

@[simp] theorem directories_put : (fs.put place text).directories = fs.directories := by
  unfold put
  split <;> rfl

@[simp] theorem devices_put : (fs.put place text).devices = fs.devices := by
  unfold put
  split <;> rfl

@[simp] theorem device?_put : (fs.put place text).device? p = fs.device? p := by
  rw [device?, device?, devices_put]

@[simp] theorem directories_append : (fs.append place text).directories = fs.directories :=
  directories_put _ _ _

@[simp] theorem devices_append : (fs.append place text).devices = fs.devices :=
  devices_put _ _ _

theorem text?_put :
    (fs.put place text).text? p =
      if p = place ∧ fs.device? place = none then some text else fs.text? p := by
  unfold put
  cases hplace : fs.device? place with
  | some device => simp
  | none =>
    by_cases hp : p = place
    · subst hp
      have hlookup : fs.devices.lookup p = none := hplace
      simp [text?, device?, hlookup]
    · have hold : ((place, text) :: fs.texts.filter (·.1 ≠ place)).lookup p = fs.texts.lookup p :=
        (lookup_cons_of_ne hp).trans (lookup_filter (p := (· ≠ place)) (by simpa using hp) _)
      rw [if_neg fun h => hp h.1, text?, text?, hold]
      rfl

theorem contents?_of_text? {fs : Files} {place : Place} {text : String}
    (h : fs.text? place = some text) : fs.contents? place = some (.ok text) := by
  cases hplace : fs.device? place with
  | some device => simp [text?, hplace] at h
  | none => simp [contents?, hplace, h]

theorem isFile_eq : fs.isFile p = ((fs.device? p).isSome || (fs.text? p).isSome) := by
  unfold isFile contents?
  cases fs.device? p with
  | some device => rfl
  | none => simp

theorem isFile_put :
    (fs.put place text).isFile p = (decide (p = place) || fs.isFile p) := by
  rw [isFile_eq, isFile_eq, device?_put, text?_put]
  by_cases hp : p = place
  · subst hp
    cases fs.device? p <;> simp
  · simp [hp]

/-- What was put at a place does not matter once something else is put there. -/
theorem put_put (text' : String) : (fs.put place text).put place text' = fs.put place text' := by
  cases hplace : fs.device? place with
  | some device => simp only [put, hplace]
  | none =>
    have hlookup : fs.devices.lookup place = none := hplace
    simp [put, device?, hlookup, List.filter_filter]

theorem append_append (text' : String) :
    (fs.append place text).append place text' = fs.append place (text ++ text') := by
  cases hplace : fs.device? place with
  | some device => simp only [append, put, hplace]
  | none =>
    unfold append
    rw [put_put, text?_put, if_pos ⟨rfl, hplace⟩, Option.getD_some, String.append_assoc]

end

/-! ## Files that are alike -/

/-- Some files have the places of some others. -/
structure Alike (fs fs' : Files) : Prop where
  directories : fs'.directories = fs.directories
  devices : fs'.devices = fs.devices
  isFile : ∀ p, fs'.isFile p = fs.isFile p

namespace Alike

variable {fs fs' : Files}

theorem refl (fs : Files) : fs.Alike fs := ⟨rfl, rfl, fun _ => rfl⟩

theorem trans {fs'' : Files} (h : fs.Alike fs') (h' : fs'.Alike fs'') : fs.Alike fs'' :=
  ⟨h'.directories.trans h.directories, h'.devices.trans h.devices,
    fun p => (h'.isFile p).trans (h.isFile p)⟩

/-- Adding to a file that is there makes no difference. -/
theorem append {place : Place} (h : fs.isFile place = true) (text : String) :
    fs.Alike (fs.append place text) := by
  refine ⟨directories_append _ _ _, devices_append _ _ _, fun p => ?_⟩
  rw [Files.append, isFile_put]
  by_cases hp : p = place
  · simp [hp, h]
  · simp [hp]

theorem put (h : fs.Alike fs') (place : Place) (text text' : String) :
    (fs.put place text).Alike (fs'.put place text') := by
  refine ⟨by rw [directories_put, directories_put, h.directories],
    by rw [devices_put, devices_put, h.devices], fun p => ?_⟩
  rw [isFile_put, isFile_put, h.isFile]

variable (h : fs.Alike fs')
include h

theorem isDirectory (p : Place) : fs'.isDirectory p = fs.isDirectory p := by
  rw [Files.isDirectory, Files.isDirectory, h.directories]

theorem step : fs'.step = fs.step := by
  funext place part
  unfold Files.step
  split
  · rfl
  · rfl
  · simp only [h.isDirectory, h.isFile]

theorem walk (r : Route) (parts : List String) : fs'.walk r parts = fs.walk r parts := by
  rw [Files.walk, Files.walk, h.step]

theorem target (r : Route) : fs'.target r = fs.target r := by
  rw [Files.target, Files.target, h.walk]

theorem targetOf (name : String) : fs'.targetOf name = fs.targetOf name := by
  rw [Files.targetOf, Files.targetOf, h.target]

theorem writable (name : String) : fs'.writable name = fs.writable name := by
  simp only [Files.writable, h.targetOf, h.isDirectory]

theorem directory (p : Place) :
    Alike { fs with directories := p :: fs.directories }
      { fs' with directories := p :: fs'.directories } :=
  ⟨congrArg (p :: ·) h.directories, h.devices, h.isFile⟩

end Alike

/-! ## Changes of files that are alike -/

/-- Two results are the same fault or files that are alike. -/
inductive AlikeResults : Except FileFault Files → Except FileFault Files → Prop
  | error (fault : FileFault) : AlikeResults (.error fault) (.error fault)
  | ok {fs fs' : Files} (h : fs.Alike fs') : AlikeResults (.ok fs) (.ok fs')

structure Change.Alike (c c' : Change) : Prop where
  fault? : c'.fault? = c.fault?
  files : c.files.Alike c'.files

theorem AlikeResults.change {x x' : Except FileFault Files} {fs fs' : Files} (h : AlikeResults x x')
    (hfs : fs.Alike fs') : (Change.ofResult fs x).Alike (.ofResult fs' x') := by
  cases h with
  | error fault => exact ⟨rfl, hfs⟩
  | ok h => exact ⟨rfl, h⟩

theorem Change.Alike.andThen {c c' : Change} {next next' : Files → Change} (h : c.Alike c')
    (hnext : ∀ fs fs' : Files, fs.Alike fs' → (next fs).Alike (next' fs')) :
    (c.andThen next).Alike (c'.andThen next') := by
  unfold Change.andThen
  rw [h.fault?]
  cases c.fault? with
  | none => exact hnext _ _ h.files
  | some fault => exact h

/-- Makes the directories that a file goes to. -/
def makeWay (fs : Files) (name : String) : Change :=
  match (Route.ofName name).parent? with
  | none => ⟨none, fs⟩
  | some r => fs.makeDirectories r.absolute r.parts.reverse

theorem save_eq (fs : Files) (name text : String) :
    fs.save name text =
      (fs.makeWay name).andThen fun fs => .ofResult fs (fs.create name text) := rfl

theorem makeDirectories_cons (fs : Files) (absolute : Bool) (part : String) (above : List String) :
    fs.makeDirectories absolute (part :: above) =
      match fs.ensureDirectory { absolute, parts := (part :: above).reverse } with
      | .error .notFound => (fs.makeDirectories absolute above).andThen fun fs =>
          .ofResult fs (fs.ensureDirectory { absolute, parts := (part :: above).reverse })
      | result => .ofResult fs result := rfl

namespace Alike

variable {fs fs' : Files} (h : fs.Alike fs')
include h

theorem makeDirectory (r : Route) : AlikeResults (fs.makeDirectory r) (fs'.makeDirectory r) := by
  unfold Files.makeDirectory
  rw [h.target]
  split
  · exact .error _
  · cases fs.target r with
    | error fault => exact .error _
    | ok target =>
      cases target with
      | directory place => exact .error _
      | entry parent last =>
        simp only [h.isDirectory, h.isFile, bind, Except.bind]
        cases child parent last with
        | error fault => exact .error _
        | ok place =>
          dsimp only
          split
          · exact .error _
          · exact .ok (h.directory place)

theorem ensureDirectory (r : Route) :
    AlikeResults (fs.ensureDirectory r) (fs'.ensureDirectory r) := by
  have hmake := h.makeDirectory r
  unfold Files.ensureDirectory
  rw [h.walk]
  generalize fs.makeDirectory r = x at hmake ⊢
  generalize fs'.makeDirectory r = x' at hmake ⊢
  cases hmake with
  | error fault =>
    cases (fs.walk r r.parts).isOk with
    | true => exact .ok h
    | false => exact .error fault
  | ok hmade => exact .ok hmade

omit h in
theorem makeDirectories (absolute : Bool) (parts : List String) (h : fs.Alike fs') :
    (fs.makeDirectories absolute parts).Alike (fs'.makeDirectories absolute parts) := by
  induction parts generalizing fs fs' with
  | nil => exact ⟨rfl, h⟩
  | cons part above ih =>
    let r : Route := { absolute, parts := (part :: above).reverse }
    have hensure := h.ensureDirectory r
    have habove := (ih h).andThen fun _ _ h' => (h'.ensureDirectory r).change h'
    rw [makeDirectories_cons, makeDirectories_cons]
    generalize fs.ensureDirectory r = x at hensure ⊢
    generalize fs'.ensureDirectory r = x' at hensure ⊢
    cases hensure with
    | error fault =>
      -- only a directory that has nowhere to go is made after those above it
      cases fault with
      | notFound => exact habove
      | _ => exact ⟨rfl, h⟩
    | ok hmade => exact ⟨rfl, hmade⟩

theorem create (name text : String) : AlikeResults (fs.create name text) (fs'.create name text) := by
  unfold Files.create
  rw [h.writable]
  cases fs.writable name with
  | error fault => exact .error fault
  | ok place =>
    simp only [device?, h.devices, bind, Except.bind]
    cases (fs.devices.lookup place).bind (·.fault? text) with
    | some fault => exact .error fault
    | none => exact .ok (h.put place text text)

/-- **Whether a text can be saved does not depend on what files hold.** -/
theorem save (name text : String) : (fs.save name text).Alike (fs'.save name text) := by
  have hmade : (fs.makeWay name).Alike (fs'.makeWay name) := by
    unfold Files.makeWay
    cases (Route.ofName name).parent? with
    | none => exact ⟨rfl, h⟩
    | some r => exact makeDirectories _ _ h
  rw [save_eq, save_eq]
  exact hmade.andThen fun _ _ h' => (h'.create name text).change h'

end Alike

/-! ## What is read again -/

/-- A file that could be saved was put at the place of its name. -/
theorem save_of_fault?_eq_none {fs : Files} {name text : String}
    (h : (fs.save name text).fault? = none) :
    ∃ (fs₁ : Files) (place : Place), fs₁.writable name = .ok place ∧
      (fs.save name text).files = fs₁.put place text := by
  rw [save_eq] at h ⊢
  generalize fs.makeWay name = made at h ⊢
  obtain ⟨fault?, fs₁⟩ := made
  cases fault? with
  | some fault => cases h
  | none =>
    change (Change.ofResult fs₁ (fs₁.create name text)).fault? = none at h
    change ∃ (fs₁' : Files) (place : Place), fs₁'.writable name = .ok place ∧
      (Change.ofResult fs₁ (fs₁.create name text)).files = fs₁'.put place text
    cases hcreate : fs₁.create name text with
    | error fault =>
      rw [hcreate] at h
      cases h
    | ok fs₂ =>
      obtain ⟨place, hplace, heq⟩ := ok_of_bind hcreate
      split at heq
      · cases heq
      · exact ⟨fs₁, place, hplace, (Except.ok.inj heq).symm⟩

section
variable {fs fs' : Files} (h : fs'.directories = fs.directories)
include h

theorem isDirectory_of_directories (p : Place) : fs'.isDirectory p = fs.isDirectory p := by
  rw [isDirectory, isDirectory, h]

theorem step_of_directories {place next : Place} {part : String}
    (hs : fs.step place part = .ok next) : fs'.step place part = .ok next := by
  unfold step at hs ⊢
  split at hs
  · exact hs
  · exact hs
  · obtain ⟨child, hchild, hs⟩ := ok_of_bind hs
    simp only [hchild, isDirectory_of_directories h, bind, Except.bind]
    split at hs
    · next hd => rw [if_pos hd, hs]
    · split at hs <;> cases hs

theorem foldlM_step_of_directories {parts : List String} {place last : Place}
    (hw : parts.foldlM fs.step place = .ok last) : parts.foldlM fs'.step place = .ok last := by
  induction parts generalizing place with
  | nil => exact hw
  | cons part rest ih =>
    rw [List.foldlM_cons] at hw ⊢
    obtain ⟨next, hnext, hw⟩ := ok_of_bind hw
    rw [step_of_directories h hnext]
    exact ih hw

/-- What a name leads to depends on the directories alone. -/
theorem targetOf_of_directories {name : String} {target : Target}
    (ht : fs.targetOf name = .ok target) : fs'.targetOf name = .ok target := by
  unfold targetOf at ht ⊢
  split at ht
  · cases ht
  · obtain ⟨place, hplace, ht⟩ := ok_of_bind ht
    unfold Files.target walk
    rw [foldlM_step_of_directories h hplace]
    exact ht

theorem writable_of_directories {name : String} {place : Place}
    (hp : fs.writable name = .ok place) : fs'.writable name = .ok place := by
  obtain ⟨target, htarget, hp⟩ := ok_of_bind hp
  unfold writable
  rw [targetOf_of_directories h htarget]
  cases target with
  | directory p => cases hp
  | entry parent last =>
    simp only [isDirectory_of_directories h] at hp ⊢
    exact hp

end

/-- A file that can be written can be read, once it is there. -/
theorem read_of_writable {fs : Files} {name : String} {place : Place}
    (h : fs.writable name = .ok place) {text : String} (ht : fs.text? place = some text) :
    fs.read name = .ok text := by
  have hcontents := contents?_of_text? ht
  obtain ⟨target, htarget, h⟩ := ok_of_bind h
  unfold read find
  rw [htarget]
  cases target with
  | directory p => cases h
  | entry parent last =>
    dsimp only at h
    split at h
    · cases h
    · next hslash =>
      obtain ⟨place', hchild, h⟩ := ok_of_bind h
      split at h
      · cases h
      · next hdirectory =>
        obtain rfl := Except.ok.inj h
        simp only [hchild, bind, Except.bind, if_neg hdirectory, hcontents, if_neg hslash]

end StationBench.Files

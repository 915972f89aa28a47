/-
Where paths lead.  A path leads to the same place as long as the directories stay; what is at a
place can be read, and writing at one place leaves the files at the others as they are.
-/
import EventIntake.Files
import EventIntake.Proofs.Nesting

namespace EventIntake.Files

theorem read_of_locate {files : Files} {path place : String}
    (hplace : files.locate path = .ok place) :
    files.read path =
      if files.isDirectory place = true then .error (.isADirectory path)
      else
        match files.files.lookup place with
        | some bytes => .ok bytes
        | none => .error (.notFound path) := by
  rw [read, hplace]
  cases hdirectory : files.isDirectory place with
  | true =>
      simp only [bind, Except.bind, hdirectory]
      rfl
  | false =>
      simp only [bind, Except.bind, hdirectory]
      cases files.files.lookup place <;> rfl

theorem exists_of_read {files : Files} {path : String} {bytes : List UInt8}
    (hread : files.read path = .ok bytes) : files.exists path = true := by
  obtain ⟨place, hplace, _⟩ := Except.bind_eq_ok_iff.1 hread
  rw [read_of_locate hplace] at hread
  rw [Files.exists, hplace]
  split at hread
  next => cases hread
  next =>
    split at hread
    next hlookup => simp [isFile, hlookup]
    next => cases hread

/-- Where anything is at a path, it is a directory or a file that can be read. -/
theorem directory_or_read {files : Files} {path : String}
    (hexists : files.exists path = true) :
    (∃ place, files.locate path = .ok place ∧ files.isDirectory place = true) ∨
      ∃ bytes, files.read path = .ok bytes := by
  rw [Files.exists] at hexists
  split at hexists
  next place hplace =>
    cases hdirectory : files.isDirectory place with
    | true => exact Or.inl ⟨place, hplace, hdirectory⟩
    | false =>
        rw [hdirectory, Bool.false_or, isFile, Option.isSome_iff_exists] at hexists
        obtain ⟨bytes, hbytes⟩ := hexists
        exact Or.inr ⟨bytes, by simp [read_of_locate hplace, hdirectory, hbytes]⟩
  next => cases hexists

section

variable {files others : Files} {path place found : String} {bytes : List UInt8}

/-- Where a path leads depends on the directories alone. -/
theorem follow_eq_ok_of_directories (hsame : others.directories = files.directories)
    {parts : List String} (hfollow : files.follow path place parts = .ok found) :
    others.follow path place parts = .ok found := by
  induction parts generalizing place with
  | nil => exact hfollow
  | cons part rest ih =>
      have hdirectory : others.isDirectory place = files.isDirectory place := by
        rw [isDirectory, hsame, isDirectory]
      rw [follow] at hfollow ⊢
      rw [hdirectory]
      split at hfollow
      next hthere =>
        rw [if_pos hthere]
        exact ih hfollow
      next => split at hfollow <;> cases hfollow

/-- A path leads to a place that is no directory. -/
structure Leads (files : Files) (path place : String) : Prop where
  locate : files.locate path = .ok place
  noDirectory : files.isDirectory place = false

theorem Leads.of_directories (hleads : files.Leads path place)
    (hsame : others.directories = files.directories) : others.Leads path place := by
  refine ⟨?_, ?_⟩
  · have hlocate := hleads.locate
    rw [Files.locate] at hlocate ⊢
    split at hlocate
    next => cases hlocate
    next hsome =>
      rw [if_neg hsome]
      exact follow_eq_ok_of_directories hsame hlocate
  · rw [isDirectory, hsame]
    exact hleads.noDirectory

theorem Leads.write (hleads : files.Leads path place) (bytes : List UInt8) :
    files.write path bytes = .ok { files with files := insert place bytes files.files } := by
  rw [Files.write, hleads.locate]
  change (if files.isDirectory place = true then _ else _) = _
  rw [hleads.noDirectory]
  rfl

/-- What can be written is at a place. -/
theorem exists_leads {after : Files} (hwrite : files.write path bytes = .ok after) :
    ∃ place, files.Leads path place := by
  obtain ⟨place, hlocate, hrest⟩ := Except.bind_eq_ok_iff.1 hwrite
  refine ⟨place, hlocate, Bool.eq_false_iff.2 fun hdirectory => ?_⟩
  rw [if_pos hdirectory] at hrest
  cases hrest

theorem Leads.exists_eq (hleads : files.Leads path place) :
    files.exists path = (files.files.lookup place).isSome := by
  rw [«exists», hleads.locate]
  dsimp only
  rw [hleads.noDirectory, Bool.false_or, isFile]

theorem Leads.read_eq (hleads : files.Leads path place) :
    files.read path =
      match files.files.lookup place with
      | some bytes => .ok bytes
      | none => .error (.notFound path) := by
  rw [read_of_locate hleads.locate, hleads.noDirectory]
  rfl

/-- What can be read is at a place. -/
theorem exists_leads_of_read (hread : files.read path = .ok bytes) :
    ∃ place, files.Leads path place ∧ files.files.lookup place = some bytes := by
  obtain ⟨place, hplace, _⟩ := Except.bind_eq_ok_iff.1 hread
  rw [read_of_locate hplace] at hread
  split at hread
  next => cases hread
  next hdirectory =>
    split at hread
    next hlookup =>
      cases hread
      exact ⟨place, ⟨hplace, eq_false_of_ne_true hdirectory⟩, hlookup⟩
    next => cases hread

/-- Writing to a path that leads elsewhere leaves what can be read. -/
theorem read_of_write {other : String} {written : List UInt8} {after : Files}
    (hwrite : files.write other written = .ok after)
    (hapart : ∀ place, files.Leads other place → ¬ files.Leads path place)
    (hread : files.read path = .ok bytes) : after.read path = .ok bytes := by
  obtain ⟨place, hleads, hlookup⟩ := exists_leads_of_read hread
  obtain ⟨changed, hchanged⟩ := exists_leads hwrite
  rw [hchanged.write] at hwrite
  cases hwrite
  have hne : place ≠ changed := fun heq => hapart changed hchanged (heq ▸ hleads)
  have hstays : Leads { files with files := insert changed written files.files } path place :=
    hleads.of_directories rfl
  rw [hstays.read_eq, lookup_insert, if_neg hne, hlookup]

end

end EventIntake.Files

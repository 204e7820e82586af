import ExportTable.Proofs.Text.Lines
import ExportTable.Proofs.Version.Places
import ExportTable.Proofs.Version.Waiting

/-!
# Where a version comes from

A version comes from the describe command if the command is found, starts in the source tree, ends
well and in time, and prints a text that names one; the version file does not matter then. In every
other case it is the first text of the version file, and why the command gave no version matters only
to the wording of an error.
-/

namespace ExportTable.Version.Resolver

variable {r : Resolver} {host other : Host}

/-! ## The describe command -/

/-- The describe command runs where the source root leads to, which is a directory. -/
theorem directory_eq_ok_iff {place : Location} :
    r.directory host = .ok place ↔
      ¬ (r.sourceRoot.toList.contains '\x00' ∨ r.arguments.any (·.toList.contains '\x00')) ∧
        host.files.locate r.sourceRoot = .ok place ∧
        host.files.node? place = some .directory := by
  unfold directory
  split
  · next hnul => exact iff_of_false nofun fun h ↦ h.1 hnul
  · next hnul =>
    change (host.files.locate r.sourceRoot >>= fun found ↦ _) = _ ↔ _
    rw [bind_eq_ok_iff]
    constructor
    · rintro ⟨found, hlocate, h⟩
      split at h
      · next hnode =>
        obtain rfl := Except.ok.inj h
        exact ⟨hnul, hlocate, hnode⟩
      · cases h
    · rintro ⟨-, hlocate, hnode⟩
      exact ⟨place, hlocate, by rw [hnode]; rfl⟩

/-- The describe command is found, it starts, and what it prints names the version. -/
def Describes (r : Resolver) (host : Host) (version : String) : Prop :=
  ∃ command place run output, host.program? r.program = some command ∧
    r.directory host = .ok place ∧ command r.arguments place = .ok run ∧
    Prints r.timeout run output ∧ describedVersion? output = some version

theorem extends_directory (h : host.files.KeepsDirectories other.files) :
    Extends (r.directory host) (r.directory other) := by
  intro place hplace
  rw [directory_eq_ok_iff] at hplace ⊢
  obtain ⟨hnul, hlocate, hnode⟩ := hplace
  exact ⟨hnul, h.locate hlocate hnode, h.directory place hnode⟩

theorem extends_describe (hprogram : other.program? = host.program?)
    (hdirectory : Extends (r.directory host) (r.directory other)) :
    Extends (r.describe host) (r.describe other) := by
  refine Extends.bind (fun started h ↦ ?_) fun _ ↦ .rfl
  unfold start at h ⊢
  rw [hprogram]
  cases hfound : host.program? r.program with
  | none =>
    rw [hfound] at h
    cases h
  | some program =>
    rw [hfound] at h
    dsimp only at h ⊢
    split at h
    · cases h
    · next place hplace =>
      rw [hdirectory place hplace]
      exact h

theorem extends_readFallback (h : Extends (host.files.find r.fallback) (other.files.find r.fallback))
    (fault fault' : DescribeFault) :
    Extends (r.readFallback host fault) (r.readFallback other fault') := by
  intro version hversion
  unfold readFallback at hversion ⊢
  split at hversion
  · cases hversion
  next content hcontent =>
  rw [FileStore.extends_readText h content hcontent]
  dsimp only
  split at hversion
  · exact hversion
  · cases hversion

/-- Why the describe command gave no version does not matter to the version file. -/
theorem extends_resolve (hdescribe : Extends (r.describe host) (r.describe other))
    (hback : Extends (r.describe other) (r.describe host))
    (hfallback : ∀ fault, r.describe host = .error fault →
      Extends (host.files.find r.fallback) (other.files.find r.fallback)) :
    Extends (r.resolve host) (r.resolve other) := by
  intro result h
  unfold resolve at h ⊢
  cases hhost : r.describe host with
  | ok version =>
    rw [hhost] at h
    rw [hdescribe version hhost]
    exact h
  | error fault =>
    rw [hhost] at h
    cases hother : r.describe other with
    | ok version =>
      rw [hback version hother] at hhost
      cases hhost
    | error fault' =>
      exact (extends_readFallback (hfallback fault hhost) fault fault').map _ result h

/-! ## The version -/

end ExportTable.Version.Resolver

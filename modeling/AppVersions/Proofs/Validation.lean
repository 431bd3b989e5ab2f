-- The law of validation: once an installation has its directory and its gcloud, nothing but the
-- version that its file tells decides, and blanks around it or builds behind it never do.
import AppVersions.Proofs.Discovery
import AppVersions.Proofs.Utf8
import AppVersions.Proofs.Versions

namespace AppVersions

/-! ## Versions that are recent enough -/

/-- Above 296.0.0, or that release itself. -/
def Version.Suffices (v : Version) : Prop :=
  toLex (296, toLex (0, 0)) < v.numbers ∨
    v.numbers = toLex (296, toLex (0, 0)) ∧ v.preRelease = []

theorem Version.suffices_iff {v : Version} : v.Suffices ↔ v.isBefore 296 0 0 = false := by
  rw [← Bool.not_eq_true, isBefore_iff]
  unfold Suffices
  rcases lt_trichotomy v.numbers (toLex (296, toLex (0, 0))) with h | h | h
  · simp [h, h.ne, h.not_gt]
  · simp [h]
  · simp [h, h.ne', h.not_gt]

namespace Sdk

/-! ## Installations -/

/-- A home directory that holds a gcloud, and a version file with this text. -/
structure Holds (sdk : Sdk) (host : Host) (text : String) : Prop where
  home : host.isDirectory sdk.home = true
  gcloud : host.isFile sdk.gcloudPath = true
  version : host.readFile sdk.versionPath = .ok (Text.Utf8.bytes text)

/-- What is said of an installation whose file tells the version `s`. -/
def verdict (sdk : Sdk) (s : String) : Except SdkError Version :=
  match Version.read s.toList with
  | .ok v => if v.isBefore 296 0 0 then .error (.outOfDate v.text "296.0.0") else .ok v
  | .error e => .error (.versionFile
    ("cannot parse version '" ++ s ++ "' from " ++ sdk.versionPath.text ++ ": " ++ e.message))

theorem check_of_holds {sdk : Sdk} {host : Host} {t s : String} (h : sdk.Holds host t)
    (hs : Text.Stripped Text.isBlank t.toList s.toList) : sdk.check host = sdk.verdict s := by
  have htrim : Text.trimBlanks t = s := by
    unfold Text.trimBlanks
    rw [Text.strip_eq_iff.mpr hs, String.ofList_toList]
  have hversion : sdk.version host = match Version.read s.toList with
      | .ok v => .ok v
      | .error e => .error (.versionFile ("cannot parse version '" ++ s ++ "' from " ++
        sdk.versionPath.text ++ ": " ++ e.message)) := by
    cases hr : Version.read s.toList with
    | ok v => simp only [version, Host.readText_of_bytes h.version, htrim, hr]
    | error e => simp only [version, Host.readText_of_bytes h.version, htrim, hr]
  have htext : minimumVersion.text = "296.0.0" := by decide
  unfold check verdict
  rw [h.home, h.gcloud, hversion]
  rcases Version.read s.toList with e | v
  · rfl
  · show (if v.isBefore 296 0 0 = true then .error (.outOfDate v.text minimumVersion.text)
      else .ok v : Except SdkError Version) = _
    rw [htext]

/-! ## Verdicts -/

section
variable {sdk : Sdk} {s : String} {v : Version}

theorem verdict_of_sufficient (h : v.Spelled s.toList) (hv : v.Suffices) :
    sdk.verdict s = .ok v := by
  unfold verdict
  rw [Version.read_eq_ok_iff.mpr h]
  dsimp only
  rw [if_neg (by simp [Version.suffices_iff.mp hv])]

theorem verdict_of_insufficient (h : v.Spelled s.toList) (hv : ¬v.Suffices) :
    sdk.verdict s = .error (.outOfDate s "296.0.0") := by
  have htext : v.text = s := String.toList_inj.mp (Version.text_of_spelled h)
  unfold verdict
  rw [Version.read_eq_ok_iff.mpr h]
  dsimp only
  rw [if_pos (by simpa [Version.suffices_iff] using hv), htext]

theorem verdict_of_no_version (h : ∀ v : Version, ¬v.Spelled s.toList) :
    ∃ reason, sdk.verdict s = .error (.versionFile reason) := by
  unfold verdict
  rcases hr : Version.read s.toList with e | v
  · exact ⟨_, rfl⟩
  · exact absurd (Version.read_eq_ok_iff.mp hr) (h v)

end

/-- What validation answers. -/
def outcome (sdk : Sdk) (host : Host) : Except SdkError Unit := (sdk.validate host).run.value

section
variable {sdk : Sdk} {host : Host} {t s : String} (h : sdk.Holds host t)
  (hs : Text.Stripped Text.isBlank t.toList s.toList)
include h hs

theorem outcome_of_holds : sdk.outcome host = (sdk.verdict s).map fun _ => () := by
  unfold outcome validate
  rw [check_of_holds h hs]
  rcases sdk.verdict s with e | v <;> rfl

/-- The three things that a version file may say. -/
theorem outcome_cases :
    (∃ v : Version, v.Spelled s.toList ∧ v.Suffices ∧ sdk.outcome host = .ok ()) ∨
      (∃ v : Version, v.Spelled s.toList ∧ ¬v.Suffices ∧
        sdk.outcome host = .error (.outOfDate s "296.0.0")) ∨
      (∀ v : Version, ¬v.Spelled s.toList) ∧
        ∃ reason, sdk.outcome host = .error (.versionFile reason) := by
  rw [outcome_of_holds h hs]
  by_cases hv : ∃ v : Version, v.Spelled s.toList
  · obtain ⟨v, hv⟩ := hv
    by_cases hsuffices : v.Suffices
    · rw [verdict_of_sufficient hv hsuffices]
      exact .inl ⟨v, hv, hsuffices, rfl⟩
    · rw [verdict_of_insufficient hv hsuffices]
      exact .inr (.inl ⟨v, hv, hsuffices, rfl⟩)
  · have hv := not_exists.mp hv
    obtain ⟨reason, hr⟩ := sdk.verdict_of_no_version hv
    rw [hr]
    exact .inr (.inr ⟨hv, reason, rfl⟩)

theorem outcome_of_spelled {v : Version} (hv : v.Spelled s.toList) :
    sdk.outcome host = if v.isBefore 296 0 0 then .error (.outOfDate s "296.0.0") else .ok () := by
  rcases outcome_cases h hs with ⟨w, hw, hsuffices, ho⟩ | ⟨w, hw, hsuffices, ho⟩ | ⟨hw, -⟩
  · obtain rfl := Version.spelled_unique hv hw
    rw [ho, Version.suffices_iff.mp hsuffices]
    rfl
  · obtain rfl := Version.spelled_unique hv hw
    rw [ho, if_pos (by simpa [Version.suffices_iff] using hsuffices)]
  · exact absurd hv (hw v)

theorem valid_iff :
    sdk.outcome host = .ok () ↔ ∃ v : Version, v.Spelled s.toList ∧ v.Suffices := by
  rcases outcome_cases h hs with ⟨v, hv, hsuffices, ho⟩ | ⟨v, hv, hsuffices, ho⟩ | ⟨hv, reason, ho⟩
  · exact iff_of_true ho ⟨v, hv, hsuffices⟩
  · refine iff_of_false (fun hok => by cases ho.symm.trans hok) ?_
    rintro ⟨w, hw, hsuf⟩
    exact hsuffices (Version.spelled_unique hw hv ▸ hsuf)
  · refine iff_of_false (fun hok => by cases ho.symm.trans hok) ?_
    rintro ⟨w, hw, -⟩
    exact hv w hw

theorem outOfDate_iff :
    (∃ installed required, sdk.outcome host = .error (.outOfDate installed required)) ↔
      ∃ v : Version, v.Spelled s.toList ∧ ¬v.Suffices := by
  rcases outcome_cases h hs with ⟨v, hv, hsuffices, ho⟩ | ⟨v, hv, hsuffices, ho⟩ | ⟨hv, reason, ho⟩
  · refine iff_of_false (fun ⟨_, _, hd⟩ => by cases ho.symm.trans hd) ?_
    rintro ⟨w, hw, hsuf⟩
    exact hsuf (Version.spelled_unique hv hw ▸ hsuffices)
  · exact iff_of_true ⟨_, _, ho⟩ ⟨v, hv, hsuffices⟩
  · refine iff_of_false (fun ⟨_, _, hd⟩ => by cases ho.symm.trans hd) ?_
    rintro ⟨w, hw, -⟩
    exact hv w hw

/-- What is reported as installed is the version as the file tells it. -/
theorem texts_of_outOfDate {installed required : String}
    (hd : sdk.outcome host = .error (.outOfDate installed required)) :
    installed = s ∧ required = "296.0.0" := by
  rcases outcome_cases h hs with ⟨v, -, -, ho⟩ | ⟨v, -, -, ho⟩ | ⟨-, reason, ho⟩
  · cases ho.symm.trans hd
  · cases ho.symm.trans hd
    exact ⟨rfl, rfl⟩
  · cases ho.symm.trans hd

theorem versionFile_iff :
    (∃ reason, sdk.outcome host = .error (.versionFile reason)) ↔
      ∀ v : Version, ¬v.Spelled s.toList := by
  rcases outcome_cases h hs with ⟨v, hv, -, ho⟩ | ⟨v, hv, -, ho⟩ | ⟨hv, hf⟩
  · exact iff_of_false (fun ⟨_, hf⟩ => by cases ho.symm.trans hf) (fun hno => hno v hv)
  · exact iff_of_false (fun ⟨_, hf⟩ => by cases ho.symm.trans hf) (fun hno => hno v hv)
  · exact iff_of_true hf hv

end

/-- With its directory and its gcloud in place, an installation is valid exactly when its file tells
a version that suffices, out of date when it tells any other version, which is then reported as it
stands there, and has a bad version file when it tells none. Blanks around the version make no
difference, and neither does its build. -/
theorem the_version_alone_decides {sdk : Sdk} {host : Host} {t s : String} (h : sdk.Holds host t)
    (hs : Text.Stripped Text.isBlank t.toList s.toList) :
    (sdk.outcome host = .ok () ↔ ∃ v : Version, v.Spelled s.toList ∧ v.Suffices) ∧
      ((∃ installed required, sdk.outcome host = .error (.outOfDate installed required)) ↔
        ∃ v : Version, v.Spelled s.toList ∧ ¬v.Suffices) ∧
      (∀ installed required, sdk.outcome host = .error (.outOfDate installed required) →
        installed = s ∧ required = "296.0.0") ∧
      ((∃ reason, sdk.outcome host = .error (.versionFile reason)) ↔
        ∀ v : Version, ¬v.Spelled s.toList) ∧
      ∀ (other : Host) (t' s' : String), sdk.Holds other t' →
        Text.Stripped Text.isBlank t'.toList s'.toList →
          (s' = s → sdk.outcome other = sdk.outcome host) ∧
          ∀ v w : Version, v.Spelled s.toList → w.Spelled s'.toList →
            w = { v with build := w.build } →
              (sdk.outcome other = .ok () ↔ sdk.outcome host = .ok ()) := by
  refine ⟨valid_iff h hs, outOfDate_iff h hs, fun _ _ => texts_of_outOfDate h hs,
    versionFile_iff h hs, fun other t' s' h' hs' => ⟨?_, fun v w hv hw hbuild => ?_⟩⟩
  · rintro rfl
    rw [outcome_of_holds h hs, outcome_of_holds h' hs']
  · have hsame : w.isBefore 296 0 0 = v.isBefore 296 0 0 := by
      rw [hbuild]
      rfl
    rw [outcome_of_spelled h hs hv, outcome_of_spelled h' hs' hw, hsame]
    split
    · exact iff_of_false nofun nofun
    · exact Iff.rfl

/-- A machine with an installation in `/sdk` whose version file holds this text. -/
def machineOfVersion (text : String) : Machine :=
  machineOf [(["sdk".toList], .directory Machine.directoryMode),
    (["sdk".toList, "bin".toList], .directory Machine.directoryMode),
    (["sdk".toList, "bin".toList, "gcloud".toList], .file 0o755 []),
    (["sdk".toList, "VERSION".toList], .file 0o644 (Text.Utf8.bytes text))] "/usr/bin"

/-- A pre-release of the oldest release that suffices is out of date, and reported with its build
but without the blanks around it. -/
theorem a_prerelease_of_the_oldest_release_is_out_of_date :
    let sdk : Sdk := ⟨⟨"/sdk"⟩⟩
    let m := machineOfVersion "\t296.0.0-0a.x+001\r\n"
    sdk.Holds m.host "\t296.0.0-0a.x+001\r\n" ∧
      sdk.outcome m.host = .error (.outOfDate "296.0.0-0a.x+001" "296.0.0") := by
  intro sdk m
  have h : sdk.Holds m.host "\t296.0.0-0a.x+001\r\n" :=
    ⟨by decide +kernel, by decide +kernel, by decide +kernel⟩
  have hs : Text.Stripped Text.isBlank "\t296.0.0-0a.x+001\r\n".toList
      "296.0.0-0a.x+001".toList := Text.strip_eq_iff.mp (by decide)
  have hv : Version.Spelled ⟨296, 0, 0, "0a.x".toList, "001".toList⟩ "296.0.0-0a.x+001".toList :=
    Version.read_eq_ok_iff.mp (by decide)
  obtain ⟨-, hold, htexts, -⟩ := the_version_alone_decides h hs
  obtain ⟨installed, required, ho⟩ :=
    hold.mpr ⟨_, hv, by rw [Version.suffices_iff]; decide⟩
  obtain ⟨rfl, rfl⟩ := htexts installed required ho
  exact ⟨h, ho⟩

end Sdk

end AppVersions

-- The laws of discovery: the installation that is found has the gcloud that was found, if that
-- stands in a directory bin when its links are resolved.
import AppVersions.Machine.Launch
import AppVersions.Proofs.Programs
import AppVersions.Proofs.Walking

namespace AppVersions

open Machine

/-! ## Answers of a tree -/

namespace Machine.FileTree

variable {t : FileTree} {here : Place} {p : Path}

theorem find_ok {n : Node} : t.find here p = .ok n ↔
    ∃ place, t.locate here p = .ok place ∧ t.node? place = some n := by
  unfold find
  rcases hl : t.locate here p with e | place
  · simp [bind, Except.bind]
  · rcases hn : t.node? place with _ | n'
    · simp [bind, Except.bind, hn]
    · simp [bind, Except.bind, hn, pure, Except.pure]

theorem isFile_iff : t.isFile here p = true ↔ ∃ n, t.find here p = .ok n ∧ n.isFile = true := by
  unfold isFile
  rcases t.find here p with e | n <;> simp

theorem isDirectory_iff :
    t.isDirectory here p = true ↔ ∃ n, t.find here p = .ok n ∧ n.isDirectory = true := by
  unfold isDirectory
  rcases t.find here p with e | n <;> simp

theorem isFile_of_isExecutable (h : t.isExecutable here p = true) : t.isFile here p = true := by
  unfold isExecutable at h
  unfold isFile
  rcases hf : t.find here p with e | n <;> rw [hf] at h
  · cases h
  · exact ((Bool.and_eq_true _ _).mp h).1

theorem isDirectory_root : t.isDirectory here ⟨"/"⟩ = true := by
  refine isDirectory_iff.mpr ⟨.directory systemMode, find_ok.mpr ⟨[], ?_, rfl⟩, rfl⟩
  refine locate_ok.mpr ⟨by decide, ?_⟩
  have hs : (⟨"/"⟩ : Path).segments = [[], []] := by decide
  have hr : t.stride [] [] = .ok (.inl []) := rfl
  rw [if_pos (by decide), hs, walk_succ, walkUntilLink_cons, hr]
  dsimp only
  rw [walkUntilLink_cons, hr]
  rfl

/-- What a path leads through is a directory. -/
theorem isDirectory_above {goal : Place} {p home : Path} {rest more : List (List Char)}
    {s : List Char} (hh : home.segments = [] :: rest) (hn : home.text ≠ "")
    (hp : p.segments = [] :: (rest ++ s :: more)) (hl : t.locate here p = .ok goal) :
    t.isDirectory here home = true := by
  obtain ⟨hc, hw⟩ := locate_ok.mp hl
  have hp0 : p.text ≠ "" := (checkPath_ok.mp hc).2.1
  rw [Path.isAbsolute_eq hp hp0, hp, ← List.cons_append] at hw
  obtain ⟨middle, left, hm, hg⟩ := walk_append hw
  obtain ⟨mode, hd⟩ := directory_of_walk hg
  refine isDirectory_iff.mpr
    ⟨.directory mode, find_ok.mpr ⟨middle, locate_ok.mpr ⟨?_, ?_⟩, hd⟩, rfl⟩
  · refine checkPath_of_sublist (Path.text_sublist hp hh ?_) hn hc
    exact List.sublist_append_left _ _
  · rw [Path.isAbsolute_eq hh hn, hh]
    exact hm

end Machine.FileTree

/-! ## Search -/

namespace Machine

/-- The program that is found is the first one on the search path that may be run. -/
theorem findProgram_ok {m : Machine} {name : String} {found : Path}
    (h : m.findProgram name = .ok found) :
    m.tree.isExecutable m.here found = true ∧
      ∃ path before d after, m.environment.get? "PATH" = some path ∧
        searchPath path = before ++ d :: after ∧ found = (m.atHome d).join ⟨name⟩ ∧
        ∀ earlier ∈ before,
          m.tree.isExecutable m.here ((m.atHome earlier).join ⟨name⟩) = false := by
  unfold findProgram at h
  rcases hp : m.environment.get? "PATH" with _ | path
  · rw [hp] at h
    cases h
  rw [hp] at h
  dsimp only at h
  split at h
  · rename_i hf
    cases h
    obtain ⟨hq, front, back, hs, hn⟩ := List.find?_eq_some_iff_append.mp hf
    obtain ⟨before, after, hd, hfront, hback⟩ := List.map_eq_append_iff.mp hs
    obtain ⟨d, after, rfl, rfl, -⟩ := List.map_eq_cons_iff.mp hback
    refine ⟨((Bool.and_eq_true _ _).mp hq).2, path, before, d, after, rfl, hd, rfl, ?_⟩
    intro earlier he
    have hno := hn _ (hfront ▸ List.mem_map_of_mem he)
    rw [← Bool.not_eq_true]
    intro hx
    rw [FileTree.isFile_of_isExecutable hx, hx] at hno
    cases hno
  · cases h

end Machine

namespace Sdk

/-! ## Validation -/

/-- An installation is only missing without its home directory or its gcloud. -/
theorem missing_of_check {sdk : Sdk} {host : Host} {reason : String}
    (h : sdk.check host = .error (.notFound reason)) :
    host.isDirectory sdk.home = false ∨ host.isFile sdk.gcloudPath = false := by
  rcases hd : host.isDirectory sdk.home with _ | _
  · exact .inl rfl
  rcases hf : host.isFile sdk.gcloudPath with _ | _
  · exact .inr rfl
  exfalso
  have hv : ∀ reason, sdk.version host ≠ .error (.notFound reason) := by
    intro reason
    unfold version
    dsimp only
    split
    · simp
    · split <;> simp
  unfold check at h
  rw [hd, hf] at h
  rcases he : sdk.version host with e | v <;> rw [he] at h
  · cases h
    exact hv reason he
  · change (if v.isBefore minimumVersion.major minimumVersion.minor minimumVersion.patch = true then
      .error (SdkError.outOfDate v.text minimumVersion.text) else .ok v) = Except.error _ at h
    split at h <;> cases h

/-! ## Regular installations -/

theorem isName_bin : Path.IsName "bin".toList := ⟨by decide, by decide, by decide⟩

theorem isName_gcloud : Path.IsName "gcloud".toList := ⟨by decide, by decide, by decide⟩

section
variable {sdk : Sdk} {t : FileTree} {here place : Place} {real : Path}
  (hh : real.parent?.bind Path.parent? = some sdk.home)
  (hs : [.name "bin".toList, .name "gcloud".toList] <:+ real.parts)
include hh hs

theorem gcloudPath_ne_empty : sdk.gcloudPath.text ≠ "" := by
  intro he
  have hg : sdk.gcloudPath.segments = [[]] := by
    unfold Path.segments
    rw [he]
    rfl
  rcases Path.segments_of_up_and_down isName_bin isName_gcloud hs hh with
    ⟨first, rest, ys, -, -, hd, -⟩ | ⟨ys, -, -, hd, -⟩
  · have := congrArg List.length (hg.symm.trans hd)
    simp at this
  · have := congrArg List.length (hg.symm.trans hd)
    simp at this

/-- Two steps up and down again there is the same gcloud. -/
theorem locate_gcloudPath (hl : t.locate here real = .ok place) :
    t.locate here sdk.gcloudPath = .ok place := by
  have hn := gcloudPath_ne_empty hh hs
  rcases Path.segments_of_up_and_down isName_bin isName_gcloud hs hh with
    ⟨first, rest, ys, hp, -, hd, ht⟩ | ⟨ys, hp, -, hd, ht⟩
  · exact FileTree.locate_thinned hp hd ht hn hl
  · exact FileTree.locate_thinned hp hd ht hn hl

/-- The home above an absolute path is a directory, and its gcloud has an absolute path. -/
theorem home_of_absolute (ha : real.isAbsolute = true) (hl : t.locate here real = .ok place) :
    sdk.gcloudPath.isAbsolute = true ∧ t.isDirectory here sdk.home = true := by
  have hn := gcloudPath_ne_empty hh hs
  have hn' : real.text ≠ "" := (FileTree.checkPath_ok.mp (FileTree.locate_ok.mp hl).1).2.1
  have hg := locate_gcloudPath hh hs hl
  rcases Path.segments_of_up_and_down isName_bin isName_gcloud hs hh with
    ⟨first, rest, ys, hp, hhome, hd, ht⟩ | ⟨ys, hp, -, -, -⟩
  · rw [Path.isAbsolute_eq hp hn'] at ha
    obtain rfl := of_decide_eq_true ha
    refine ⟨(Path.isAbsolute_eq hd hn).trans ha, ?_⟩
    rw [hhome]
    by_cases hr : rest = []
    · rw [hr]
      exact FileTree.isDirectory_root
    · have hsegs : (Path.above [] rest).segments = [] :: rest := by
        refine Path.segments_above ?_ (fun h => hr h.2)
        intro s hs
        have hm := Path.slash_notMem_splitOn sdk.gcloudPath.text.toList
        apply hm
        rw [show sdk.gcloudPath.text.toList.splitOn '/' = _ from hd]
        rcases List.mem_cons.mp hs with rfl | hs
        · exact List.mem_cons_self
        · exact List.mem_cons_of_mem _ (List.mem_append_left _ hs)
      refine FileTree.isDirectory_above hsegs ?_ hd hg
      intro he
      rw [Path.segments, he] at hsegs
      exact hr (List.cons.inj hsegs).2.symm
  · rw [Path.isAbsolute_eq hp hn'] at ha
    cases ha

end

/-! ## Discovery -/

theorem discover_ok {host : Host} {sdk : Sdk} (h : discover host = .ok sdk) :
    ∃ found, host.findProgram "gcloud" = .ok found ∧
      ((host.canonical? found).getD found).parent?.bind Path.parent? = some sdk.home := by
  unfold discover at h
  split at h
  · cases h
  · rename_i found hf
    refine ⟨found, hf, ?_⟩
    unfold ofGcloudPath at h
    split at h
    · rename_i home hh
      cases h
      exact hh
    · cases h

/-- Discovery keeps to the first gcloud on the search path. Its links resolved, it is two steps
below the home of the installation, and if these steps are `bin` and `gcloud`, then the gcloud of
the installation is the one that was found; from an absolute path, as it is once its links are
resolved, it is that one which is launched, and validation does not miss it. -/
theorem discovery_keeps_the_gcloud_of_a_regular_installation (m : Machine) {sdk : Sdk}
    (h : discover m.host = .ok sdk) :
    ∃ found place, m.findProgram "gcloud" = .ok found ∧
      m.tree.locate m.here found = .ok place ∧
      (m.tree.isExecutable m.here found = true ∧
        ∃ path before d after, m.environment.get? "PATH" = some path ∧
          searchPath path = before ++ d :: after ∧ found = (m.atHome d).join ⟨"gcloud"⟩ ∧
          ∀ earlier ∈ before,
            m.tree.isExecutable m.here ((m.atHome earlier).join ⟨"gcloud"⟩) = false) ∧
      ∀ real, real = (m.tree.canonical? m.here found).getD found →
        real.parent?.bind Path.parent? = some sdk.home ∧
        ((m.tree.canonical? m.here found).isSome = true → real.isAbsolute = true) ∧
        ([.name "bin".toList, .name "gcloud".toList] <:+ real.parts →
          m.tree.locate m.here sdk.gcloudPath = .ok place ∧
          (real.isAbsolute = true →
            (∀ options op, (Program.requestOf m.host sdk options op).command.head? =
              some sdk.gcloudPath.text) ∧
            ∀ reason, sdk.check m.host ≠ .error (.notFound reason))) := by
  obtain ⟨found, hf, hhome⟩ := discover_ok h
  obtain ⟨hx, hfirst⟩ := findProgram_ok hf
  have hfile := FileTree.isFile_iff.mp (FileTree.isFile_of_isExecutable hx)
  obtain ⟨n, hn, hnf⟩ := hfile
  obtain ⟨place, hl, hnode⟩ := FileTree.find_ok.mp hn
  refine ⟨found, place, hf, hl, ⟨hx, hfirst⟩, ?_⟩
  rintro real rfl
  refine ⟨hhome, ?_, ?_⟩
  · intro hs
    obtain ⟨real, hr⟩ := Option.isSome_iff_exists.mp hs
    rw [hr]
    exact (FileTree.locate_canonical hl hr).1
  intro hsuffix
  have hreal : m.tree.locate m.here ((m.tree.canonical? m.here found).getD found) = .ok place := by
    rcases hr : m.tree.canonical? m.here found with _ | real
    · exact hl
    · exact (FileTree.locate_canonical hl hr).2
  have hg := locate_gcloudPath hhome hsuffix hreal
  refine ⟨hg, fun ha => ?_⟩
  obtain ⟨habs, hdir⟩ := home_of_absolute hhome hsuffix ha hreal
  constructor
  · intro options op
    show some (absolute _ sdk.gcloudPath).text = _
    unfold absolute
    rw [if_pos habs]
  · intro reason hc
    rcases missing_of_check hc with hm | hm
    · cases hdir.symm.trans hm
    · have hi : m.tree.isFile m.here sdk.gcloudPath = true :=
        FileTree.isFile_iff.mpr ⟨n, FileTree.find_ok.mpr ⟨place, hg, hnode⟩, hnf⟩
      cases hi.symm.trans hm

/-- A machine with these entries and this search path. -/
def machineOf (entries : List (Place × Node)) (path : String) : Machine where
  tree := ⟨entries⟩
  here := []
  environment := [("PATH", path)]
  os := "linux"
  timing := ⟨.epoch, .epoch, 0⟩
  invocation := ""

/-- A gcloud in a directory of another name is found, and that of its neighbour is taken. -/
theorem the_gcloud_of_a_neighbour_is_taken :
    let m := machineOf [(["tools".toList], .directory directoryMode),
      (["tools".toList, "gcloud".toList], .file 0o755 []),
      (["bin".toList], .directory directoryMode),
      (["bin".toList, "gcloud".toList], .file 0o755 [])] "/tools"
    ∃ sdk found, discover m.host = .ok sdk ∧ m.findProgram "gcloud" = .ok found ∧
      m.tree.locate m.here sdk.gcloudPath ≠ m.tree.locate m.here found :=
  ⟨⟨⟨"/"⟩⟩, ⟨"/tools/gcloud"⟩, by decide +kernel, by decide +kernel, by decide +kernel⟩

/-- Behind two links stands the gcloud of an installation, and that is the one which counts. -/
theorem the_gcloud_behind_links_is_the_one_found :
    let m := machineOf [(["links".toList], .directory directoryMode),
      (["links".toList, "gcloud".toList], .link ⟨"../latest/./bin//gcloud"⟩),
      (["latest".toList], .link ⟨"/sdk"⟩),
      (["sdk".toList], .directory directoryMode),
      (["sdk".toList, "bin".toList], .directory directoryMode),
      (["sdk".toList, "bin".toList, "gcloud".toList], .file 0o755 [])] "/nowhere:/links"
    discover m.host = .ok ⟨⟨"/sdk"⟩⟩ ∧
      m.tree.locate m.here ⟨"/sdk/bin/gcloud"⟩ =
        .ok ["sdk".toList, "bin".toList, "gcloud".toList] ∧
      ∀ reason, Sdk.check ⟨⟨"/sdk"⟩⟩ m.host ≠ .error (.notFound reason) := by
  intro m
  have hd : discover m.host = .ok ⟨⟨"/sdk"⟩⟩ := by decide +kernel
  obtain ⟨found, place, hf, hl, -, hr⟩ := discovery_keeps_the_gcloud_of_a_regular_installation m hd
  have hf' : m.findProgram "gcloud" = .ok ⟨"/links/gcloud"⟩ := by decide +kernel
  cases hf.symm.trans hf'
  have hl' : m.tree.locate m.here ⟨"/links/gcloud"⟩ =
      .ok ["sdk".toList, "bin".toList, "gcloud".toList] := by decide +kernel
  cases hl.symm.trans hl'
  obtain ⟨-, ha, hr⟩ := hr ⟨"/sdk/bin/gcloud"⟩ (by decide +kernel)
  obtain ⟨hg, hc⟩ := hr ⟨[.root, .name "sdk".toList], by decide +kernel⟩
  exact ⟨hd, hg, (hc (ha (by decide +kernel))).2⟩

end Sdk

end AppVersions

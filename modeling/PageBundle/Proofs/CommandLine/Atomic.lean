import PageBundle.CommandLine.Run
import PageBundle.Proofs.Build.Phases
import PageBundle.Proofs.FileTree.Write

/-! Bundling from the command line is all or nothing. Everything that can fail comes before the output: settings,
source, files, document and ceiling, in this order. After a failure of any of them the file system is as it was and
nothing was said; after a success there is the document, in one file or on the standard output, and no other change. -/

namespace PageBundle.CommandLine

variable {w : World} {source path : String} {output : Option String} {o : Overrides} {why : Failure} {product : Product}

/-- How bundling can fail before there is anything to hand over, stage by stage. -/
inductive Fails (w : World) (source : String) (o : Overrides) (why : Failure) : Prop
  | loading (h : Settings.load w.disk w.home = .error why)
  | detecting {settings : Settings} (hs : Settings.load w.disk w.home = .ok settings)
      (h : Source.detect w.disk source = .error why)
  | collecting {settings : Settings} {s : Source} (hs : Settings.load w.disk w.home = .ok settings)
      (hd : Source.detect w.disk source = .ok s) (h : (s.collectFiles w (options settings o)).result = .error why)
  | making {settings : Settings} {s : Source} {files : FileSet} (hs : Settings.load w.disk w.home = .ok settings)
      (hd : Source.detect w.disk source = .ok s) (hc : (s.collectFiles w (options settings o)).result = .ok files)
      (h : s.make files (options settings o).bundle = .error why)
  | checking {settings : Settings} {s : Source} {files : FileSet} {draft : Draft}
      (hs : Settings.load w.disk w.home = .ok settings) (hd : Source.detect w.disk source = .ok s)
      (hc : (s.collectFiles w (options settings o)).result = .ok files)
      (hm : s.make files (options settings o).bundle = .ok draft)
      (h : draft.finish (options settings o).bundle = .error why)

/-- Whether bundling comes to a document. -/
def Makes (w : World) (source : String) (o : Overrides) (product : Product) : Prop :=
  ∃ settings s, Settings.load w.disk w.home = .ok settings ∧ Source.detect w.disk source = .ok s ∧
    (build w (options settings o) s).result = .ok product

/-- A build fails in the stage of collecting, of making the document, or of holding it against the ceiling. -/
theorem build_eq_error_iff {opts : BuildOptions} {s : Source} : (build w opts s).result = .error why ↔
    (s.collectFiles w opts).result = .error why ∨ ∃ files, (s.collectFiles w opts).result = .ok files ∧
      (s.make files opts.bundle = .error why ∨ ∃ draft, s.make files opts.bundle = .ok draft ∧
        draft.finish opts.bundle = .error why) := by
  rw [build_result, Source.draft, bind_eq_error_iff, bind_eq_error_iff]
  constructor
  · rintro ((hc | ⟨files, hc, hm⟩) | ⟨draft, hd, hf⟩)
    · exact .inl hc
    · exact .inr ⟨files, hc, .inl hm⟩
    · obtain ⟨files, hc, hm⟩ := bind_eq_ok_iff.1 hd
      exact .inr ⟨files, hc, .inr ⟨draft, hm, hf⟩⟩
  · rintro (hc | ⟨files, hc, hm | ⟨draft, hm, hf⟩⟩)
    · exact .inl (.inl hc)
    · exact .inl (.inr ⟨files, hc, hm⟩)
    · exact .inr ⟨draft, bind_eq_ok_iff.2 ⟨files, hc, hm⟩, hf⟩

theorem prepare_eq_error_iff : prepare w source o = .error why ↔ Fails w source o why := by
  constructor
  · intro h
    rcases bind_eq_error_iff.1 h with hs | ⟨settings, hs, h⟩
    · exact .loading hs
    rcases bind_eq_error_iff.1 h with hd | ⟨s, hd, h⟩
    · exact .detecting hs hd
    rcases bind_eq_error_iff.1 h with hb | ⟨product, -, h⟩
    · rcases build_eq_error_iff.1 hb with hc | ⟨files, hc, hm | ⟨draft, hm, hf⟩⟩
      · exact .collecting hs hd hc
      · exact .making hs hd hc hm
      · exact .checking hs hd hc hm hf
    · cases h
  · have after {settings : Settings} {s : Source} (hs : Settings.load w.disk w.home = .ok settings)
        (hd : Source.detect w.disk source = .ok s) (hb : (build w (options settings o) s).result = .error why) :
        prepare w source o = .error why :=
      bind_eq_error_iff.2 (.inr ⟨settings, hs, bind_eq_error_iff.2 (.inr ⟨s, hd, bind_eq_error_iff.2 (.inl hb)⟩)⟩)
    intro h
    cases h with
    | loading h => exact bind_eq_error_iff.2 (.inl h)
    | detecting hs h => exact bind_eq_error_iff.2 (.inr ⟨_, hs, bind_eq_error_iff.2 (.inl h)⟩)
    | collecting hs hd h => exact after hs hd (build_eq_error_iff.2 (.inl h))
    | making hs hd hc h => exact after hs hd (build_eq_error_iff.2 (.inr ⟨_, hc, .inl h⟩))
    | checking hs hd hc hm h => exact after hs hd (build_eq_error_iff.2 (.inr ⟨_, hc, .inr ⟨_, hm, h⟩⟩))

theorem makes_of_prepare {limitKb : Nat} (h : prepare w source o = .ok (product, limitKb)) :
    Makes w source o product := by
  obtain ⟨settings, hs, h⟩ := bind_eq_ok_iff.1 h
  obtain ⟨s, hd, h⟩ := bind_eq_ok_iff.1 h
  obtain ⟨product', hb, h⟩ := bind_eq_ok_iff.1 h
  cases h
  exact ⟨settings, s, hs, hd, hb⟩

/-- What a run that succeeds leaves behind: the document, where it was asked for, and nothing else. -/
def Outcome.Delivers (w : World) (html : String) (e : Outcome) : Option String → Prop
  | none => e.stdout = html ++ "\n" ∧ e.disk = w.disk
  | some path => e.stdout = "" ∧ ∃ spot, w.disk.resolve true path = .ok spot ∧
    w.disk.Written spot.place html.toUTF8 e.disk ∧
    e.disk.resolve true path = .ok ⟨spot.place, some (.file html.toUTF8)⟩ ∧
    (w.disk.refusal? .read spot.place = none → e.disk.readFile path = .ok html.toUTF8)

/-- Handing over a document without a fault leaves it where it was asked for. -/
theorem deliver_delivers {limitKb : Nat} (h : (deliver w product limitKb output).fault = none) :
    (deliver w product limitKb output).Delivers w product.html output := by
  unfold deliver at h ⊢
  cases output with
  | none => exact ⟨rfl, rfl⟩
  | some path =>
    dsimp only at h ⊢
    cases hw : w.disk.writeFile path product.html.toUTF8 with
    | error why =>
      rw [hw] at h
      cases h
    | ok disk =>
      obtain ⟨spot, hr, hwritten, hthere⟩ := Disk.written_of_writeFile hw
      refine ⟨rfl, spot, hr, hwritten, hthere, fun hread => Disk.readFile_of_resolve hthere ?_⟩
      rw [hwritten.refusal?, hread]

/-- The output is all that can go wrong once there is a document, and only if it goes to a file. -/
theorem fault_deliver (w : World) (product : Product) (limitKb : Nat) (output : Option String) :
    (deliver w product limitKb output).fault = none ∨
      ∃ path, output = some path ∧ (deliver w product limitKb output).fault = some (.cannotWrite path) := by
  unfold deliver
  cases output with
  | none => exact .inl rfl
  | some path =>
    dsimp only
    cases w.disk.writeFile path product.html.toUTF8 with
    | error why => exact .inr ⟨path, rfl, rfl⟩
    | ok disk => exact .inl rfl

/-- Bundling fails at some stage, and then the file system is as it was and nothing was said; or the document cannot be
written where it is to go; or the document is there, in the file that was named or on the standard output, and all else
is as it was. -/
theorem run_bundle_atomic (w : World) (source : String) (output : Option String) (o : Overrides) :
    let e := run w (.bundle source output o)
    (∀ why, e.fault = some (.failure why) ↔ Fails w source o why) ∧
    (∀ why, Fails w source o why → e.stdout = "" ∧ e.disk = w.disk) ∧
    (e.fault = none → ∃ product, Makes w source o product ∧ e.Delivers w product.html output) ∧
    (e.fault = none ∨ (∃ why, Fails w source o why) ∨
      ∃ path, output = some path ∧ e.fault = some (.cannotWrite path)) := by
  intro e
  cases hp : prepare w source o with
  | error why =>
    have he : e = .failed w (.failure why) := by
      change runBundle w source output o = _
      rw [runBundle, hp]
    have hfails := prepare_eq_error_iff.1 hp
    rw [he]
    refine ⟨fun why' => ⟨fun h => ?_, fun h => ?_⟩, fun _ _ => ⟨rfl, rfl⟩, nofun, .inr (.inl ⟨why, hfails⟩)⟩
    · cases h
      exact hfails
    · rw [← prepare_eq_error_iff, hp] at h
      cases h
      rfl
  | ok x =>
    obtain ⟨product, limitKb⟩ := x
    have he : e = deliver w product limitKb output := by
      change runBundle w source output o = _
      rw [runBundle, hp]
    have hfails : ∀ why, ¬ Fails w source o why := by
      intro why h
      rw [← prepare_eq_error_iff, hp] at h
      cases h
    have hfault := fault_deliver w product limitKb output
    rw [he]
    refine ⟨fun why => iff_of_false (fun h => ?_) (hfails why), fun why h => absurd h (hfails why), fun h => ?_, ?_⟩
    · rcases hfault with hf | ⟨path, -, hf⟩
      · rw [hf] at h
        cases h
      · rw [hf] at h
        cases h
    · exact ⟨product, makes_of_prepare hp, deliver_delivers h⟩
    · rcases hfault with hf | hf
      · exact .inl hf
      · exact .inr (.inr hf)

/-- A page with a link to it from outside its directory, and a directory with a file that may not be read. -/
def linkedPage : Disk where
  root := .directory [
    ("drafts", .directory [("a.css", .file "h1{}".toUTF8)]),
    ("latest", .link "site/../site/page.html"),
    ("site", .directory [("a.css", .file "h1{}".toUTF8), ("page.html", .file "<p>  x  </p>".toUTF8)])]
  working := []
  refusal? access place := if access = .read ∧ place = ["drafts", "a.css"] then some .denied else none

/-- The document can take the place of the page that it was made from, also through the link. The other directory cannot
be bundled, and then the page stays. -/
theorem run_bundle_atomic_linkedPage :
    let w : World := { disk := linkedPage, home := some "home" }
    let e := run w (.bundle "site/page.html" (some "latest") {})
    let e' := run w (.bundle "drafts" (some "latest") {})
    (e.fault = none ∧ ∃ product, Makes w "site/page.html" {} product ∧
      linkedPage.Written ["site", "page.html"] product.html.toUTF8 e.disk) ∧
    e'.fault = some (.failure (.io "drafts/a.css" "Permission denied (os error 13)")) ∧ e'.disk = linkedPage := by
  intro w e e'
  obtain ⟨-, -, h, -⟩ := run_bundle_atomic w "site/page.html" (some "latest") {}
  obtain ⟨hfails, hsame, -, -⟩ := run_bundle_atomic w "drafts" (some "latest") {}
  have hfault : e.fault = none := by decide +kernel
  have hfault' : e'.fault = some (.failure (.io "drafts/a.css" "Permission denied (os error 13)")) := by decide +kernel
  obtain ⟨product, hmakes, -, spot, hspot, hwritten, -, -⟩ := h hfault
  have hplace : (linkedPage.resolve true "latest").map Spot.place = .ok ["site", "page.html"] := by decide +kernel
  rw [hspot] at hplace
  rw [Except.ok.inj hplace] at hwritten
  exact ⟨⟨hfault, product, hmakes, hwritten⟩, hfault', (hsame _ ((hfails _).1 hfault')).2⟩

end PageBundle.CommandLine

import Mathlib.Algebra.Group.Nat.Defs
import PageBundle.CommandLine.Run
import PageBundle.Proofs.Build.Phases

/-! The ceiling holds exactly. Sizes are compared in floating point, where numbers from 2 ^ 53 on are rounded; but
rounding never takes a number below a power of two, so a size that is below 2 ^ 53 itself compares with every limit as
whole numbers do. Settings whose limits are in order stay so under what the command line says. -/

namespace PageBundle

namespace Binary64

theorem le_nearest (n unit : Nat) : n / unit ≤ nearest n unit := by
  unfold nearest
  dsimp only
  split
  · exact Nat.le_succ _
  · exact Nat.le_refl _

/-- Rounding does not take a number below a power of two. -/
theorem pow_le_round {k n : Nat} (h : 2 ^ k ≤ n) : 2 ^ k ≤ round n := by
  have hn : n ≠ 0 := fun h0 => absurd (h0 ▸ h) (Nat.not_le.2 (Nat.two_pow_pos k))
  by_cases hs : n < 2 ^ 53
  · rwa [round_of_lt hs]
  · have hl : 53 ≤ n.log2 := (Nat.le_log2 hn).2 (Nat.not_lt.1 hs)
    have hk : k ≤ n.log2 := (Nat.le_log2 hn).2 h
    -- The unit is the power of two that leaves 53 bits, of which the first is one.
    have hsplit : 2 ^ n.log2 = 2 ^ 52 * 2 ^ (n.log2 + 1 - precision) := by
      rw [← Nat.pow_add, precision]
      congr 1
      omega
    have hunit : 0 < 2 ^ (n.log2 + 1 - precision) := Nat.two_pow_pos _
    calc 2 ^ k ≤ 2 ^ n.log2 := Nat.pow_le_pow_right (by decide) hk
      _ = 2 ^ 52 * 2 ^ (n.log2 + 1 - precision) := hsplit
      _ ≤ n / 2 ^ (n.log2 + 1 - precision) * 2 ^ (n.log2 + 1 - precision) := by
        refine Nat.mul_le_mul_right _ ((Nat.le_div_iff_mul_le hunit).2 ?_)
        rw [← hsplit]
        exact Nat.log2_self_le hn
      _ ≤ round n := Nat.mul_le_mul_right _ (le_nearest _ _)

end Binary64

/-- A size that floating point has room for is compared exactly, whatever the limit. -/
theorem Size.exceeds_iff {s : Size} (h : s.bytes < 2 ^ 53) (limitKb : Nat) :
    s.exceeds limitKb = true ↔ 1024 * limitKb < s.bytes := by
  rw [exceeds, decide_eq_true_iff, Binary64.round_of_lt h]
  by_cases hl : limitKb < 2 ^ 53
  · rw [Binary64.round_of_lt hl]
  · have := Binary64.pow_le_round (Nat.not_lt.1 hl)
    omega

/-- A document is finished exactly if it is not above the ceiling, with a warning exactly if it is above the size for
one. -/
theorem Draft.finish_eq_ok_iff {d : Draft} {opts : BundleOptions} {product : Product} :
    d.finish opts = .ok product ↔ (Size.measure d.html).exceeds opts.maxSizeKb = false ∧
      product = { d with
        size := .measure d.html, sha256 := digest d.html
        nearLimit := (Size.measure d.html).exceeds opts.warnSizeKb } := by
  unfold finish Size.check
  rw [map_eq_ok_iff]
  dsimp only
  split
  · rename_i he
    simp [he]
  · rename_i he
    simp [he, eq_comm]

/-! ## Limits in order -/

/-- Settings that can be used warn no later than they refuse. -/
theorem Settings.ordered_of_load {d : Disk} {home : Option String} {s : Settings} (h : load d home = .ok s) :
    s.bundle.warnSizeKb ≤ s.bundle.maxSizeKb := by
  obtain ⟨path, -, h⟩ := bind_eq_ok_iff.1 h
  split at h
  · obtain ⟨text, -, h⟩ := bind_eq_ok_iff.1 h
    split at h
    · cases h
    · split at h
      · cases h
      · rename_i hle
        cases h
        exact Nat.not_lt.1 hle
  · cases h
    decide

/-- What the command line says does not put the two sizes out of order. -/
theorem CommandLine.ordered_options {s : Settings} (h : s.bundle.warnSizeKb ≤ s.bundle.maxSizeKb) (o : Overrides) :
    (options s o).bundle.warnSizeKb ≤ (options s o).bundle.maxSizeKb := by
  unfold options
  dsimp only
  cases o.maxSizeKb with
  | none => exact h
  | some limit => exact Nat.min_le_right _ _

/-! ## The ceiling -/

/-- Whatever the settings and the command line say, the size at which to warn is not above the ceiling; and a build
whose document has `b` bytes succeeds exactly if `b` is at most 1024 times the ceiling, and is then said to be near it
exactly if `b` is more than 1024 times the size at which to warn. No other document comes out of a build. -/
theorem build_within_ceiling {d : Disk} {home : Option String} {settings : Settings}
    (h : settings = {} ∨ Settings.load d home = .ok settings) (o : CommandLine.Overrides) :
    let opts := CommandLine.options settings o
    opts.bundle.warnSizeKb ≤ opts.bundle.maxSizeKb ∧
    ∀ (w : World) (s : Source),
      (∀ product, (build w opts s).result = .ok product → s.draft w opts = .ok product.toDraft) ∧
      ∀ draft, s.draft w opts = .ok draft → draft.html.utf8ByteSize < 2 ^ 53 →
        ((∃ product, (build w opts s).result = .ok product) ↔
          draft.html.utf8ByteSize ≤ 1024 * opts.bundle.maxSizeKb) ∧
        ∀ product, (build w opts s).result = .ok product →
          (product.nearLimit = true ↔ 1024 * opts.bundle.warnSizeKb < draft.html.utf8ByteSize) := by
  intro opts
  have hordered : settings.bundle.warnSizeKb ≤ settings.bundle.maxSizeKb := by
    rcases h with rfl | h
    · decide
    · exact Settings.ordered_of_load h
  refine ⟨CommandLine.ordered_options hordered o, fun w s => ⟨fun product hp => ?_, fun draft hd hb => ?_⟩⟩
  · rw [build_result] at hp
    obtain ⟨draft, hd, hf⟩ := bind_eq_ok_iff.1 hp
    rw [(Draft.finish_eq_ok_iff.1 hf).2]
    exact hd
  · have hresult : (build w opts s).result = draft.finish opts.bundle := by
      rw [build_result, hd]
      rfl
    have hexceeds := Size.exceeds_iff (s := .measure draft.html) hb
    rw [hresult]
    refine ⟨⟨?_, fun hle => ?_⟩, fun product hp => ?_⟩
    · rintro ⟨product, hp⟩
      have hne := (Draft.finish_eq_ok_iff.1 hp).1
      rw [← Bool.not_eq_true, hexceeds] at hne
      exact Nat.not_lt.1 hne
    · have hne : ¬ (Size.measure draft.html).exceeds opts.bundle.maxSizeKb = true := by
        rw [hexceeds]
        exact Nat.not_lt.2 hle
      exact ⟨_, Draft.finish_eq_ok_iff.2 ⟨Bool.not_eq_true _ ▸ hne, rfl⟩⟩
    · rw [(Draft.finish_eq_ok_iff.1 hp).2]
      exact hexceeds _

/-- Settings whose ceiling lies between two numbers of floating point, and a page. -/
def oddCeiling : Disk where
  root := .directory [
    ("home", .directory [(".htmlpack", .directory [
      ("htmlpack.toml", .file "[bundle]\nmax_size_kb = 9007199254740993\nwarn_size_kb = 0\n".toUTF8)])]),
    ("page.html", .file "<p>x</p>".toUTF8)]
  working := []

/-- The page is near the ceiling of the settings, and above one that the command line lowers to nothing. -/
theorem build_within_ceiling_oddCeiling :
    let settings : Settings := { bundle := { maxSizeKb := 9007199254740993, warnSizeKb := 0 } }
    let built (o : CommandLine.Overrides) :=
      (build { disk := oddCeiling } (CommandLine.options settings o) (.html "page.html")).result
    Settings.load oddCeiling (some "home") = .ok settings ∧
    (∃ product, built {} = .ok product ∧ product.nearLimit = true) ∧
    ¬ ∃ product, built { maxSizeKb := some 0 } = .ok product := by
  intro settings built
  have hload : Settings.load oddCeiling (some "home") = .ok settings := by decide +kernel
  let page : Draft := .ofDocument "page.html" .html "<p>x</p>"
  refine ⟨hload, ?_, ?_⟩
  · obtain ⟨-, h⟩ := build_within_ceiling (.inr hload) {}
    obtain ⟨hok, hnear⟩ := (h { disk := oddCeiling } (.html "page.html")).2 page (by decide +kernel) (by decide +kernel)
    obtain ⟨product, hp⟩ := hok.2 (by decide +kernel)
    exact ⟨product, hp, (hnear product hp).2 (by decide +kernel)⟩
  · obtain ⟨-, h⟩ := build_within_ceiling (.inr hload) { maxSizeKb := some 0 }
    obtain ⟨hok, -⟩ := (h { disk := oddCeiling } (.html "page.html")).2 page (by decide +kernel) (by decide +kernel)
    exact fun hp => absurd (hok.1 hp) (by decide +kernel)

end PageBundle

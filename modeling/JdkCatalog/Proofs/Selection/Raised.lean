import JdkCatalog.Proofs.Filter.Monotone
import JdkCatalog.Proofs.Selection.Interference

/-!
# Raising the build

A feed that offers a product from some build on offers it on all later builds
as well.  `Product.Rising` says of a product that its conditions are of this
kind, and `evaluate_and_select_of_raised_build` says what becomes of filters and
of such products when the build is raised.
-/

namespace JdkCatalog

/-- The filters of the product and of its packages, where there are any, rise
with the build. -/
structure Product.Rising (p : Product) : Prop where
  filter : ∀ filter ∈ p.filter, filter.Rising
  packages : ∀ package ∈ p.packages, ∀ filter ∈ package.filter, filter.Rising

namespace Selection

variable {build build' : BuildNumber}

/-- A product is kept if its filter holds and a package fits. -/
theorem exists_kept_iff {p : Product} {ctx : Context} :
    (∃ item, (p.select ctx).value = .kept item) ↔
      Filter.evaluate? ctx.build p.filter = .holds ∧
        ∃ package ∈ p.packages, package.Fits ctx := by
  rw [value_select]
  cases Filter.evaluate? ctx.build p.filter with
  | holds =>
    cases hfind : p.packages.find? fun package => package.Fits ctx with
    | none => simpa using hfind
    | some package =>
      have hfits : package.Fits ctx := by simpa using List.find?_some hfind
      simp only [kept.injEq, exists_eq', true_and, true_iff]
      exact ⟨package, List.mem_of_find?_eq_some hfind, hfits⟩
  | fails | unknown => simp

theorem evaluate?_of_raised_build (hle : build ≤ build') {filter : Option Filter}
    (hrising : ∀ f ∈ filter, f.Rising) (hholds : Filter.evaluate? build filter = .holds) :
    Filter.evaluate? build' filter = .holds := by
  cases filter with
  | none => rfl
  | some f =>
    have hverdict := (Filter.evaluate_le_evaluate hle f).1 (hrising f rfl)
    rw [← Verdict.holds_le_iff] at hholds ⊢
    exact hholds.trans hverdict

/-- A product that rises is not withdrawn when the build is raised. -/
theorem exists_kept_of_raised_build (hle : build ≤ build') {p : Product} (hrising : p.Rising)
    {os : Os} {arch : Arch}
    (hkept : ∃ item, (p.select ⟨build, os, arch⟩).value = .kept item) :
    ∃ item, (p.select ⟨build', os, arch⟩).value = .kept item := by
  rw [exists_kept_iff] at hkept ⊢
  obtain ⟨hfilter, package, hmem, hos, harch, hpackage⟩ := hkept
  exact ⟨evaluate?_of_raised_build hle hrising.filter hfilter, package, hmem, hos, harch,
    evaluate?_of_raised_build hle (hrising.packages package hmem) hpackage⟩

/-- Verdicts are ordered from failing over undecided to holding.  When the build
is raised, the verdicts on rising filters do not go down, those on falling
filters do not go up, and no product that rises is withdrawn. -/
theorem evaluate_and_select_of_raised_build (hle : build ≤ build') :
    (Verdict.fails < .unknown ∧ Verdict.unknown < .holds) ∧
    (∀ filter : Filter, filter.Rising →
      Filter.evaluate build filter ≤ Filter.evaluate build' filter) ∧
    (∀ filter : Filter, filter.Falling →
      Filter.evaluate build' filter ≤ Filter.evaluate build filter) ∧
    (∀ (p : Product) (os : Os) (arch : Arch), p.Rising →
      (∃ item, (p.select ⟨build, os, arch⟩).value = .kept item) →
      ∃ item, (p.select ⟨build', os, arch⟩).value = .kept item) :=
  ⟨by decide, fun filter => (Filter.evaluate_le_evaluate hle filter).1,
    fun filter => (Filter.evaluate_le_evaluate hle filter).2,
    fun _ _ _ hrising hkept => exists_kept_of_raised_build hle hrising hkept⟩

/-- A filter that holds from a build on, and is undecided before it. -/
def sinceBuild (since : BuildNumber) : Filter :=
  .any [.between (some since) none, .unrecognized "1"]

theorem rising_sinceBuild (since : BuildNumber) : (sinceBuild since).Rising := by
  have hrange : (Filter.between (some since) none).Rising :=
    Filter.everywhere_of_leaf trivial ⟨fun _ _ => Even.zero, nofun, nofun⟩
  have hother : (Filter.unrecognized "1").Rising :=
    Filter.everywhere_of_leaf trivial ⟨nofun, nofun, nofun⟩
  exact Filter.everywhere_any_iff.mpr ⟨⟨nofun, nofun, nofun⟩,
    List.forall_mem_cons.mpr ⟨hrange, List.forall_mem_singleton.mpr hother⟩⟩

/-- A product with one package, for the builds of a filter. -/
def productFor (filter : Filter) : Product where
  vendor := "v"
  product := none
  flavour := none
  isDefault := none
  filter := filter
  jdkVersionMajor := 17
  jdkVersion := "17"
  jdkVendorVersion := none
  vendorVersion := none
  suggestedSdkName := "n"
  sharedIndexAliases := []
  packages := [{
    os := .linux
    arch := .x86_64
    packageType := .zip
    filter := filter
    url := "u"
    sha256 := "s"
    archiveSize := 1
    archiveFileName := "a"
    unpackFolder := ""
    unpackedSize := 2
    installFolderName := "i"
    javaHomePath := "" }]

/-- The build is raised from `203` to `203.SNAPSHOT`.  A filter that was
undecided holds, its negation fails, and a product that was kept is kept. -/
theorem select_of_build_raised_to_snapshot :
    let build : BuildNumber := ⟨none, [203], by decide⟩
    let build' : BuildNumber := ⟨none, [203, BuildNumber.snapshot], by decide⟩
    let filter := sinceBuild ⟨none, [203, 5], by decide⟩
    let p := productFor (sinceBuild build)
    build ≤ build' ∧
      filter.Rising ∧ Filter.evaluate build filter ≤ Filter.evaluate build' filter ∧
      filter.negation.Falling ∧
      Filter.evaluate build' filter.negation ≤ Filter.evaluate build filter.negation ∧
      p.Rising ∧ (∃ item, (p.select ⟨build, .linux, .x86_64⟩).value = .kept item) ∧
      ∃ item, (p.select ⟨build', .linux, .x86_64⟩).value = .kept item := by
  intro build build' filter p
  have hle : build ≤ build' := by decide
  have hfilter : filter.Rising := rising_sinceBuild _
  have hnegation : filter.negation.Falling := Filter.falling_negation_iff.mpr hfilter
  have hp : p.Rising := {
    filter := fun _ h => Option.some.inj h ▸ rising_sinceBuild build
    packages := by
      intro package hmem filter hfilter
      obtain rfl := List.mem_singleton.mp hmem
      exact Option.some.inj hfilter ▸ rising_sinceBuild build }
  have hkept : ∃ item, (p.select ⟨build, .linux, .x86_64⟩).value = .kept item := ⟨_, rfl⟩
  obtain ⟨-, hrising, hfalling, hproduct⟩ := evaluate_and_select_of_raised_build hle
  exact ⟨hle, hfilter, hrising _ hfilter, hnegation, hfalling _ hnegation, hp, hkept,
    hproduct p .linux .x86_64 hp hkept⟩

end Selection

end JdkCatalog

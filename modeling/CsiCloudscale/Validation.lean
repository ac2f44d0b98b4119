/-
  The Capability Validator and the Error Translator (controller.go, lines 60-71 and 625-676).

  `validateCapabilities` collects the violations of a capability list into a `sets.String` and
  returns `violations.List()`, the distinct messages in sorted order; `validateLuksCapabilities`
  is the stricter check for encrypted volumes.  A `sets.String` is kept as that sorted list
  (`StringSet`), so the texts come out in the order Go gives them.  The headline facts are the
  two emptiness characterisations: a list passes iff every element has the single supported
  access mode and an access type (`validateCapabilities_eq_nil_iff`), and passes the LUKS check
  iff no element asks for a raw block device (`validateLuksCapabilities_eq_nil_iff`).  Beyond
  emptiness, the result is described exactly: the violations are sorted in Go's string order,
  a strict total order, and are the messages of the elements that break a rule
  (`validateCapabilities_spec`); the LUKS check gives its one message or nothing
  (`validateLuksCapabilities_eq`).

  `reraiseNotFound` maps a client error to a status, and `maxVolumesPerServerErrorMessageRe` is
  the attach-limit regular expression, matched the way `regexp.MatchString` does: anywhere in
  the text, `\d+` being one or more ASCII digits; it matches exactly the texts that contain the
  phrase followed by digits and ` volumes` (`maxVolumesPerServerErrorMessageRe_iff`).
-/
import Mathlib.Algebra.Order.Ring.Int
import Mathlib.Data.List.Sort
import Mathlib.Data.List.Infix
import CsiCloudscale.Csi

namespace CsiCloudscale

open Csi

/-! ## `sets.String` -/

/-- Go's string order (`sort.Strings`): byte order, which on valid UTF-8 is code-point order. -/
def goStringLess (a b : String) : Bool := @decide _ (String.decLt a b)

/-- `sets.String.Insert` on the sorted list `List()` returns. -/
def StringSet.insert (x : String) : List String → List String
  | [] => [x]
  | y :: ys => if x = y then y :: ys else if goStringLess x y then x :: y :: ys else y :: insert x ys

theorem StringSet.insert_ne_nil (x : String) (l : List String) : insert x l ≠ [] := by
  cases l with
  | nil => simp [insert]
  | cons y ys => simp only [insert]; split <;> [simp; split <;> simp]

/-- Go's string order is the lexicographic order of the characters; it is a strict total
    order, so `List()` is strictly increasing, hence has no repeats. -/
theorem goStringLess_iff (a b : String) : goStringLess a b = true ↔ List.lt a.data b.data :=
  decide_eq_true_iff

theorem goStringLess_irrefl (a : String) : goStringLess a a = false := by
  rw [Bool.eq_false_iff, ne_eq, goStringLess_iff]
  exact List.lt_irrefl Char.lt_irrefl a.data

theorem goStringLess_trans {a b c : String} (hab : goStringLess a b = true)
    (hbc : goStringLess b c = true) : goStringLess a c = true := by
  rw [goStringLess_iff] at *
  exact List.lt_trans Char.lt_trans
    (fun h h' => Char.not_lt.mpr (Char.le_trans (Char.not_lt.mp h') (Char.not_lt.mp h))) hab hbc

theorem goStringLess_total {a b : String} (h : a ≠ b) (hn : goStringLess a b = false) :
    goStringLess b a = true := by
  rw [Bool.eq_false_iff, ne_eq, goStringLess_iff] at hn
  rw [goStringLess_iff]
  by_contra hn'
  exact h (String.ext (List.lt_antisymm (fun h h' =>
    Char.ext (UInt32.eq_of_val_eq (Fin.le_antisymm (Char.not_lt.mp h') (Char.not_lt.mp h))))
    hn hn'))

/-- `Insert` adds the one element. -/
@[simp] theorem StringSet.mem_insert {x y : String} {l : List String} :
    y ∈ StringSet.insert x l ↔ y = x ∨ y ∈ l := by
  induction l with
  | nil => simp [StringSet.insert]
  | cons z l ih =>
    unfold StringSet.insert
    split
    · subst_vars; simp
    · split <;> simp [ih, or_left_comm]

/-- `Insert` keeps `List()` strictly increasing. -/
theorem StringSet.sorted_insert (x : String) {l : List String}
    (hl : l.Sorted fun a b => goStringLess a b = true) :
    (StringSet.insert x l).Sorted fun a b => goStringLess a b = true := by
  induction l with
  | nil => simp [StringSet.insert]
  | cons y l ih =>
    obtain ⟨hy, hl⟩ := List.sorted_cons.mp hl
    unfold StringSet.insert
    split
    · exact List.sorted_cons.mpr ⟨hy, hl⟩
    · split
      case isTrue hxy =>
        exact List.sorted_cons.mpr ⟨by simpa [hxy] using fun b hb => goStringLess_trans hxy (hy b hb),
          List.sorted_cons.mpr ⟨hy, hl⟩⟩
      case isFalse hne hxy =>
        refine List.sorted_cons.mpr ⟨?_, ih hl⟩
        simp only [StringSet.mem_insert, forall_eq_or_imp]
        exact ⟨goStringLess_total hne (Bool.eq_false_iff.mpr hxy), hy⟩

theorem StringSet.insert_idem (x : String) (l : List String) :
    StringSet.insert x (StringSet.insert x l) = StringSet.insert x l := by
  induction l with
  | nil => simp [StringSet.insert]
  | cons y l ih =>
    by_cases hxy : x = y
    · simp [StringSet.insert, hxy]
    · by_cases hlt : goStringLess x y = true <;> simp [StringSet.insert, hxy, hlt, ih]

/-! ## The capability checks -/

/-- `cloudscale.ch currently only support a single node to be attached to a single node in
    read/write mode`: the one access mode the driver supports. -/
def supportedAccessMode : AccessMode := .singleNodeWriter

/-- The violations one capability adds in `validateCapabilities`. -/
def capabilityViolations (violations : List String) (cap : VolumeCapability) : List String :=
  let violations :=
    if cap.accessMode ≠ supportedAccessMode then
      StringSet.insert ("unsupported access mode " ++ cap.accessMode.toString) violations
    else violations
  match cap.accessType with
  | some .block => violations
  | some .mount => violations
  | none => StringSet.insert "unsupported access type" violations

/-- The violations of a list of capabilities, empty when there are none. -/
def validateCapabilities (caps : List VolumeCapability) : List String :=
  caps.foldl capabilityViolations []

/-- The violations one capability adds in `validateLuksCapabilities`. -/
def luksCapabilityViolations (violations : List String) (cap : VolumeCapability) : List String :=
  match cap.accessType with
  | some .block => StringSet.insert "Cannot use LUKS with block volumes" violations
  | _ => violations

/-- The violations of a list of capabilities for an encrypted volume. -/
def validateLuksCapabilities (caps : List VolumeCapability) : List String :=
  caps.foldl luksCapabilityViolations []

/-- What the first check asks of one capability. -/
def CapabilityOk (cap : VolumeCapability) : Prop :=
  cap.accessMode = supportedAccessMode ∧ cap.accessType.isSome

/-- One capability keeps the violations empty iff it is acceptable, and a nonempty set of
    violations stays nonempty. -/
theorem capabilityViolations_eq_nil_iff (v : List String) (cap : VolumeCapability) :
    capabilityViolations v cap = [] ↔ v = [] ∧ CapabilityOk cap := by
  unfold capabilityViolations CapabilityOk
  obtain ⟨m, t⟩ := cap
  by_cases hm : m = supportedAccessMode <;>
    rcases t with _ | _ | _ <;> simp [hm, StringSet.insert_ne_nil]

theorem foldl_capabilityViolations_eq_nil_iff (caps : List VolumeCapability) (v : List String) :
    caps.foldl capabilityViolations v = [] ↔ v = [] ∧ ∀ cap ∈ caps, CapabilityOk cap := by
  induction caps generalizing v with
  | nil => simp
  | cons cap caps ih =>
    rw [List.foldl_cons, ih, capabilityViolations_eq_nil_iff]
    simp only [List.mem_cons, forall_eq_or_imp, and_assoc]

/-- **`validateCapabilities` accepts exactly the lists of acceptable capabilities.** -/
theorem validateCapabilities_eq_nil_iff (caps : List VolumeCapability) :
    validateCapabilities caps = [] ↔ ∀ cap ∈ caps, CapabilityOk cap := by
  simp [validateCapabilities, foldl_capabilityViolations_eq_nil_iff]

theorem foldl_luksCapabilityViolations_eq_nil_iff (caps : List VolumeCapability)
    (v : List String) :
    caps.foldl luksCapabilityViolations v = [] ↔
      v = [] ∧ ∀ cap ∈ caps, cap.accessType ≠ some .block := by
  induction caps generalizing v with
  | nil => simp
  | cons cap caps ih =>
    rw [List.foldl_cons, ih]
    obtain ⟨m, t⟩ := cap
    rcases t with _ | _ | _ <;> simp [luksCapabilityViolations, StringSet.insert_ne_nil]

/-- **`validateLuksCapabilities` accepts exactly the lists with no raw block capability.** -/
theorem validateLuksCapabilities_eq_nil_iff (caps : List VolumeCapability) :
    validateLuksCapabilities caps = [] ↔ ∀ cap ∈ caps, cap.accessType ≠ some .block := by
  simp [validateLuksCapabilities, foldl_luksCapabilityViolations_eq_nil_iff]

/-- A message `validateCapabilities` reports for one capability. -/
def CapabilityMessage (cap : VolumeCapability) (msg : String) : Prop :=
  (cap.accessMode ≠ supportedAccessMode ∧ msg = "unsupported access mode " ++ cap.accessMode.toString) ∨
    (cap.accessType = none ∧ msg = "unsupported access type")

theorem mem_capabilityViolations {v : List String} {cap : VolumeCapability} {msg : String} :
    msg ∈ capabilityViolations v cap ↔ msg ∈ v ∨ CapabilityMessage cap msg := by
  obtain ⟨m, t⟩ := cap
  unfold capabilityViolations CapabilityMessage
  by_cases hm : m = supportedAccessMode <;> rcases t with _ | _ | _ <;>
    simp [hm, or_comm, or_left_comm]

theorem sorted_capabilityViolations {v : List String} (cap : VolumeCapability)
    (hv : v.Sorted fun a b => goStringLess a b = true) :
    (capabilityViolations v cap).Sorted fun a b => goStringLess a b = true := by
  obtain ⟨m, t⟩ := cap
  unfold capabilityViolations
  by_cases hm : m = supportedAccessMode <;> rcases t with _ | _ | _ <;>
    simp only [hm, ne_eq, not_true_eq_false, not_false_eq_true, if_true, if_false] <;>
    repeat' first | exact hv | apply StringSet.sorted_insert

theorem foldl_capabilityViolations_spec (caps : List VolumeCapability) {v : List String}
    (hv : v.Sorted fun a b => goStringLess a b = true) :
    (caps.foldl capabilityViolations v).Sorted (fun a b => goStringLess a b = true) ∧
      ∀ msg, msg ∈ caps.foldl capabilityViolations v ↔
        msg ∈ v ∨ ∃ cap ∈ caps, CapabilityMessage cap msg := by
  induction caps generalizing v with
  | nil => simpa using hv
  | cons cap caps ih =>
    obtain ⟨hs, hm⟩ := ih (sorted_capabilityViolations cap hv)
    refine ⟨hs, fun msg => ?_⟩
    simp only [List.foldl_cons, hm, mem_capabilityViolations, List.mem_cons, exists_eq_or_imp, or_assoc]

/-- **`validateCapabilities` returns `violations.List()`.**  The messages come out strictly
    increasing in Go's string order, so each at most once, and they are exactly the unsupported
    access modes of the list, each named, and `unsupported access type` when some capability
    sets no access type. -/
theorem validateCapabilities_spec (caps : List VolumeCapability) :
    (validateCapabilities caps).Sorted (fun a b => goStringLess a b = true) ∧
      ∀ msg, msg ∈ validateCapabilities caps ↔
        (∃ cap ∈ caps, cap.accessMode ≠ supportedAccessMode ∧
            msg = "unsupported access mode " ++ cap.accessMode.toString) ∨
          (msg = "unsupported access type" ∧ ∃ cap ∈ caps, cap.accessType = none) := by
  obtain ⟨hs, hm⟩ := foldl_capabilityViolations_spec caps (List.sorted_nil)
  refine ⟨hs, fun msg => ?_⟩
  simp only [validateCapabilities, hm, List.not_mem_nil, false_or, CapabilityMessage,
    and_or_left, exists_or]
  simp [and_comm, and_left_comm]

theorem foldl_luksCapabilityViolations (caps : List VolumeCapability) (v : List String) :
    caps.foldl luksCapabilityViolations v =
      if ∃ cap ∈ caps, cap.accessType = some .block then
        StringSet.insert "Cannot use LUKS with block volumes" v
      else v := by
  induction caps generalizing v with
  | nil => simp
  | cons cap caps ih =>
    obtain ⟨m, t⟩ := cap
    rw [List.foldl_cons, ih]
    rcases t with _ | _ | _ <;> by_cases h : ∃ cap ∈ caps, cap.accessType = some .block <;>
      simp [luksCapabilityViolations, h, StringSet.insert_idem]

/-- **The LUKS check reports one message or none.** -/
theorem validateLuksCapabilities_eq (caps : List VolumeCapability) :
    validateLuksCapabilities caps =
      if ∃ cap ∈ caps, cap.accessType = some .block then ["Cannot use LUKS with block volumes"]
      else [] := by
  rw [validateLuksCapabilities, foldl_luksCapabilityViolations]; rfl

/-! ## The error translator -/

/-- Translate a client error: a 404 response becomes `NotFound`, any other failure `Aborted`
    with the operation named in the text. -/
def reraiseNotFound (err : Cloudscale.Error) (operation : String) : Csi.Error :=
  match err with
  | .response statusCode _ =>
    if statusCode = 404 then .status .notFound ⟨err.text, []⟩
    else .status .aborted ⟨operation ++ ": Request failed", []⟩
  | .other _ => .status .aborted ⟨operation ++ ": Random error", []⟩

/-- The code `reraiseNotFound` gives: `NotFound` exactly for a 404 response. -/
theorem code_reraiseNotFound (err : Cloudscale.Error) (operation : String) :
    (reraiseNotFound err operation).code =
      some (if err.isNotFound then .notFound else .aborted) := by
  rcases err with ⟨code, _⟩ | _
  · by_cases h : code = 404
    · subst h; rfl
    · simp [reraiseNotFound, Cloudscale.Error.isNotFound, h, Csi.Error.code]
  · rfl

/-! ## The attach-limit pattern -/

/-- The literal text `maxVolumesPerServerErrorMessageRe` starts with. -/
def maxVolumesPhrase : String :=
  "Due to internal limitations, it is currently not possible to attach more than "

/-- The pattern matches at the start of `cs`: the phrase, one or more digits, then ` volumes`.
    The digits are the whole run of digits after the phrase, since ` volumes` starts with a
    space. -/
def maxVolumesMatchesAt (cs : List Char) : Bool :=
  maxVolumesPhrase.toList.isPrefixOf cs &&
    let rest := cs.drop maxVolumesPhrase.length
    let digits := rest.takeWhile Char.isDigit
    !digits.isEmpty && " volumes".toList.isPrefixOf (rest.drop digits.length)

/-- `maxVolumesPerServerErrorMessageRe.MatchString(s)`: the pattern matches somewhere in `s`. -/
def maxVolumesPerServerErrorMessageRe (s : String) : Bool :=
  s.toList.tails.any maxVolumesMatchesAt

theorem drop_length_takeWhile {α} (p : α → Bool) (l : List α) :
    l.drop (l.takeWhile p).length = l.dropWhile p := by
  have h := List.drop_left (l.takeWhile p) (l.dropWhile p)
  rwa [List.takeWhile_append_dropWhile] at h

theorem drop_maxVolumesPhrase (rest : List Char) :
    (maxVolumesPhrase.toList ++ rest).drop maxVolumesPhrase.length = rest :=
  List.drop_left' rfl

/-- ` volumes` starts with a space, which ends the run of digits. -/
theorem takeWhile_isDigit_volumes (post : List Char) :
    (" volumes".toList ++ post).takeWhile Char.isDigit = [] := rfl

theorem maxVolumesMatchesAt_iff (cs : List Char) :
    maxVolumesMatchesAt cs = true ↔
      ∃ ds post, ds ≠ [] ∧ (∀ c ∈ ds, c.isDigit) ∧
        cs = maxVolumesPhrase.toList ++ ds ++ " volumes".toList ++ post := by
  unfold maxVolumesMatchesAt
  simp only [Bool.and_eq_true, List.isPrefixOf_iff_prefix, Bool.not_eq_true', List.isEmpty_eq_false]
  constructor
  · rintro ⟨⟨rest, rfl⟩, hds, post, hpost⟩
    rw [drop_maxVolumesPhrase, drop_length_takeWhile] at *
    refine ⟨_, post, hds, fun c => List.mem_takeWhile_imp, ?_⟩
    rw [List.append_assoc, List.append_assoc, hpost, List.takeWhile_append_dropWhile]
  · rintro ⟨ds, post, hne, hds, rfl⟩
    have hdigits : (ds ++ (" volumes".toList ++ post)).takeWhile Char.isDigit = ds := by
      rw [List.takeWhile_append_of_pos hds, takeWhile_isDigit_volumes, List.append_nil]
    simp only [List.append_assoc, drop_maxVolumesPhrase, hdigits, List.drop_left]
    exact ⟨List.prefix_append _ _, hne, List.prefix_append _ _⟩

/-- The texts of the attach-limit language: the phrase, one or more ASCII digits and ` volumes`,
    anywhere in the text. -/
def MaxVolumesText (s : String) : Prop :=
  ∃ pre ds post, ds ≠ [] ∧ (∀ c ∈ ds, c.isDigit) ∧
    s.toList = pre ++ maxVolumesPhrase.toList ++ ds ++ " volumes".toList ++ post

/-- **The attach-limit pattern, as a language.**  `maxVolumesPerServerErrorMessageRe` matches a
    text exactly when it contains the phrase, one or more ASCII digits, and ` volumes`. -/
theorem maxVolumesPerServerErrorMessageRe_iff (s : String) :
    maxVolumesPerServerErrorMessageRe s = true ↔ MaxVolumesText s := by
  simp only [maxVolumesPerServerErrorMessageRe, MaxVolumesText, List.any_eq_true, List.mem_tails,
    maxVolumesMatchesAt_iff]
  constructor
  · rintro ⟨_, ⟨pre, hpre⟩, ds, post, hne, hds, rfl⟩
    exact ⟨pre, ds, post, hne, hds, by rw [← hpre]; simp only [List.append_assoc]⟩
  · rintro ⟨pre, ds, post, hne, hds, h⟩
    exact ⟨_, ⟨pre, by rw [h]; simp only [List.append_assoc]⟩, ds, post, hne, hds, rfl⟩

end CsiCloudscale

/-
  The names of the test pods: `pseudoUuid` (src/unnamed/part_000, lines 975-988).

  Every end-to-end test names its pod or deployment `pseudoUuid()`: sixteen bytes from
  `crypto/rand`, written `%x-%x-%x-%x-%x` over the slices `b[0:4]`, `b[4:6]`, `b[6:8]`,
  `b[8:10]` and `b[10:]`.  The draw is the argument of the model, as `randString`'s is for the
  fake: sixteen bytes (`UuidBytes`), or `none` when `rand.Read` fails, after which the function
  returns the empty text.  `%x` of a byte slice writes each byte as two lowercase hexadecimal
  digits, the high half first (`fmtSbx` with `ldigits`).

  What the names are for is stated by reading them back: `UuidLayout` is the layout of a UUID
  (five groups of 8, 4, 4, 4 and 12 lowercase hexadecimal digits joined by dashes), and
  `parseUuid` reads the bytes a text in that layout names.

  The main results:
  * the names of the drawn bytes are exactly the texts in the layout
    (`uuidLayout_iff_pseudoUuid`);
  * a name reads back as the bytes it was drawn from (`parseUuid_pseudoUuid`), so two draws
    name the same pod only if they drew the same bytes.
-/
import Mathlib.Data.List.Basic

namespace CsiCloudscale

/-! ## `pseudoUuid` -/

/-- The sixteen bytes `rand.Read` fills `b := make([]byte, 16)` with. -/
@[ext]
structure UuidBytes where
  bytes : List UInt8
  length_eq : bytes.length = 16

/-- `ldigits`, the digits `fmt` writes a `%x` with. -/
def ldigits : List Char := "0123456789abcdefx".toList

/-- `fmtSbx` on one byte: its two digits, the high half first. -/
def hexPair (c : UInt8) : List Char :=
  [ldigits.getD (c.toNat >>> 4) '0', ldigits.getD (c.toNat &&& 0xF) '0']

/-- `%x` of a byte slice. -/
def hexBytes (b : List UInt8) : String := ⟨b.flatMap hexPair⟩

/-- `pseudoUuid`; the argument is what `rand.Read` drew, `none` when it fails. -/
def pseudoUuid : Option UuidBytes → String
  | none => ""
  | some ⟨b, _⟩ =>
    hexBytes (b.take 4) ++ "-" ++ hexBytes ((b.take 6).drop 4) ++ "-" ++
      hexBytes ((b.take 8).drop 6) ++ "-" ++ hexBytes ((b.take 10).drop 8) ++ "-" ++
      hexBytes (b.drop 10)

/-! ## Reading a name back -/

/-- The sixteen lowercase hexadecimal digits. -/
def hexDigits : List Char := ldigits.take 16

/-- The value of a lowercase hexadecimal digit. -/
def hexValue (c : Char) : Option Nat := if c ∈ hexDigits then some (ldigits.indexOf c) else none

/-- The bytes a run of digits writes, two digits a byte. -/
def unhex : List Char → Option (List UInt8)
  | [] => some []
  | [_] => none
  | hi :: lo :: rest => do
    let h ← hexValue hi
    let l ← hexValue lo
    let bs ← unhex rest
    return (16 * h + l).toUInt8 :: bs

/-- The pieces of a list of the given lengths, in order. -/
def cut {α : Type} : List Nat → List α → List (List α)
  | [], _ => []
  | n :: ns, l => l.take n :: cut ns (l.drop n)

/-- The layout of a UUID: five groups of 8, 4, 4, 4 and 12 lowercase hexadecimal digits,
    joined by dashes. -/
def UuidLayout (s : String) : Prop :=
  (s.data.splitOn '-').map List.length = [8, 4, 4, 4, 12] ∧ ∀ c ∈ s.data, c = '-' ∨ c ∈ hexDigits

instance : DecidablePred UuidLayout := fun s => by unfold UuidLayout; infer_instance

/-- The bytes a text in the layout of a UUID names. -/
def parseUuid (s : String) : Option (List UInt8) :=
  let groups := s.data.splitOn '-'
  if groups.map List.length = [8, 4, 4, 4, 12] then unhex groups.flatten else none

/-! ## Digits -/

theorem hexValue_getD : ∀ n < 16, hexValue (ldigits.getD n '0') = some n := by decide

theorem hexDigits_getD : ∀ n < 16, ldigits.getD n '0' ∈ hexDigits := by decide

theorem dash_not_mem_hexDigits : '-' ∉ hexDigits := by decide

theorem hexValue_of_mem {c : Char} (h : c ∈ hexDigits) : hexValue c = some (ldigits.indexOf c) :=
  if_pos h

/-- A digit's value names the digit back. -/
theorem hexValue_eq_some {c : Char} {v : Nat} (h : hexValue c = some v) :
    v < 16 ∧ ldigits.getD v '0' = c := by
  have digits : ∀ c ∈ hexDigits, ldigits.indexOf c < 16 ∧ ldigits.getD (ldigits.indexOf c) '0' = c := by
    decide
  unfold hexValue at h
  split at h
  · cases h; exact digits c ‹_›
  · cases h

/-- A byte is its high half times sixteen plus its low half. -/
theorem byte_halves (c : UInt8) :
    c.toNat >>> 4 < 16 ∧ c.toNat &&& 0xF < 16 ∧
      (16 * (c.toNat >>> 4) + (c.toNat &&& 0xF)).toUInt8 = c := by
  have hc : c.toNat < 256 := c.toNat_lt_size
  rw [Nat.shiftRight_eq_div_pow, show 0xF = 2 ^ 4 - 1 from rfl, Nat.and_pow_two_sub_one_eq_mod]
  refine ⟨by omega, by omega, UInt8.toNat.inj ?_⟩
  rw [UInt8.toNat_ofNat_of_lt (show _ < 256 by omega)]
  omega

/-- The digits of the byte with halves `h` and `l`. -/
theorem hexPair_halves {h l : Nat} (hh : h < 16) (hl : l < 16) :
    hexPair (16 * h + l).toUInt8 = [ldigits.getD h '0', ldigits.getD l '0'] := by
  have hv : (16 * h + l).toUInt8.toNat = 16 * h + l := UInt8.toNat_ofNat_of_lt (show _ < 256 by omega)
  simp only [hexPair, hv, Nat.shiftRight_eq_div_pow, show 0xF = 2 ^ 4 - 1 from rfl,
    Nat.and_pow_two_sub_one_eq_mod]
  congr 3 <;> omega

theorem mem_hexPair {c : UInt8} {x : Char} (hx : x ∈ hexPair c) : x ∈ hexDigits := by
  obtain ⟨h1, h2, -⟩ := byte_halves c
  simp only [hexPair, List.mem_cons, List.mem_singleton, List.not_mem_nil, or_false] at hx
  rcases hx with rfl | rfl
  · exact hexDigits_getD _ h1
  · exact hexDigits_getD _ h2

@[simp] theorem length_flatMap_hexPair (l : List UInt8) :
    (l.flatMap hexPair).length = 2 * l.length := by
  induction l with
  | nil => rfl
  | cons c l ih =>
    simp only [List.flatMap_cons, List.length_append, ih, hexPair, List.length_cons,
      List.length_nil]
    omega

/-! ## Digits and bytes -/

/-- The digits of a byte string read back as the bytes. -/
theorem unhex_flatMap_hexPair (l : List UInt8) : unhex (l.flatMap hexPair) = some l := by
  induction l with
  | nil => rfl
  | cons c l ih =>
    obtain ⟨h1, h2, hc⟩ := byte_halves c
    have hcons : (c :: l).flatMap hexPair = ldigits.getD (c.toNat >>> 4) '0' ::
        ldigits.getD (c.toNat &&& 0xF) '0' :: l.flatMap hexPair := rfl
    rw [hcons, unhex, hexValue_getD _ h1, hexValue_getD _ h2, ih]
    exact congrArg (fun x => some (x :: l)) hc

/-- What `unhex` reads, written back, is the text it read. -/
theorem flatMap_hexPair_of_unhex {cs : List Char} {l : List UInt8} (h : unhex cs = some l) :
    l.flatMap hexPair = cs := by
  induction cs using unhex.induct generalizing l with
  | case1 => cases h; rfl
  | case2 => cases h
  | case3 hi lo rest ih =>
    simp only [unhex, Option.bind_eq_bind, Option.bind_eq_some, Option.pure_def,
      Option.some.injEq] at h
    obtain ⟨vh, hh, vl, hl, bs, hbs, rfl⟩ := h
    obtain ⟨hh', rfl⟩ := hexValue_eq_some hh
    obtain ⟨hl', rfl⟩ := hexValue_eq_some hl
    simp only [List.flatMap_cons, hexPair_halves hh' hl', ih hbs, List.cons_append,
      List.nil_append]

/-- A run of digits of even length reads as some bytes. -/
theorem unhex_isSome {cs : List Char} (hd : ∀ c ∈ cs, c ∈ hexDigits) (he : cs.length % 2 = 0) :
    ∃ l, unhex cs = some l := by
  induction cs using unhex.induct with
  | case1 => exact ⟨[], rfl⟩
  | case2 => simp at he
  | case3 hi lo rest ih =>
    obtain ⟨l, hl⟩ := ih (fun c hc => hd c (by simp [hc]))
      (by simp only [List.length_cons] at he; omega)
    refine ⟨(16 * ldigits.indexOf hi + ldigits.indexOf lo).toUInt8 :: l, ?_⟩
    rw [unhex, hexValue_of_mem (hd hi (by simp)), hexValue_of_mem (hd lo (by simp)), hl]
    rfl

/-! ## Groups -/

theorem take_flatMap_hexPair (n : Nat) (l : List UInt8) :
    (l.flatMap hexPair).take (2 * n) = (l.take n).flatMap hexPair := by
  induction l generalizing n with
  | nil => simp
  | cons c l ih =>
    cases n with
    | zero => simp
    | succ n => simp [Nat.mul_succ, ← ih, hexPair, List.take_succ_cons]

theorem drop_flatMap_hexPair (n : Nat) (l : List UInt8) :
    (l.flatMap hexPair).drop (2 * n) = (l.drop n).flatMap hexPair := by
  induction l generalizing n with
  | nil => simp
  | cons c l ih =>
    cases n with
    | zero => simp
    | succ n => simp [Nat.mul_succ, ← ih, hexPair]

/-- Cutting the bytes and writing each piece is cutting their digits into twice as long
    pieces. -/
theorem cut_flatMap_hexPair (ns : List Nat) (l : List UInt8) :
    (cut ns l).map (·.flatMap hexPair) = cut (ns.map (2 * ·)) (l.flatMap hexPair) := by
  induction ns generalizing l with
  | nil => rfl
  | cons n ns ih => simp only [cut, List.map_cons, take_flatMap_hexPair, drop_flatMap_hexPair, ih]

/-- A flattened list cut at the lengths of its pieces gives the pieces back. -/
theorem cut_flatten {α : Type} (gs : List (List α)) : cut (gs.map List.length) gs.flatten = gs := by
  induction gs with
  | nil => rfl
  | cons g gs ih => simp only [List.map_cons, List.flatten_cons, cut, List.take_left', List.drop_left', ih]

/-- A piece of a list split where `p` holds has only elements of the list, none of them
    satisfying `p`. -/
theorem mem_of_mem_splitOnP {α : Type} {p : α → Bool} {l g : List α} {c : α}
    (hg : g ∈ l.splitOnP p) (hc : c ∈ g) : c ∈ l ∧ p c = false := by
  induction l generalizing g with
  | nil => simp_all
  | cons a l ih =>
    rw [List.splitOnP_cons] at hg
    split at hg
    · rcases List.mem_cons.mp hg with rfl | hg
      · cases hc
      · exact ⟨List.mem_cons_of_mem a (ih hg hc).1, (ih hg hc).2⟩
    · obtain ⟨g0, gs, hgs⟩ := List.exists_cons_of_ne_nil (List.splitOnP_ne_nil p l)
      rw [hgs, List.modifyHead_cons] at hg
      rcases List.mem_cons.mp hg with rfl | hg
      · rcases List.mem_cons.mp hc with rfl | hc
        · simp_all
        · have := ih (hgs ▸ List.mem_cons_self g0 gs) hc
          exact ⟨List.mem_cons_of_mem a this.1, this.2⟩
      · have := ih (hgs ▸ List.mem_cons_of_mem g0 hg) hc
        exact ⟨List.mem_cons_of_mem a this.1, this.2⟩

/-- The digits of the pieces of a draw, which its name joins with dashes. -/
def uuidGroups (b : UuidBytes) : List (List Char) :=
  (cut [4, 2, 2, 2, 6] b.bytes).map (·.flatMap hexPair)

/-- The text of a draw: its pieces' digits, joined by dashes. -/
theorem pseudoUuid_data (b : UuidBytes) :
    (pseudoUuid (some b)).data = ['-'].intercalate (uuidGroups b) := by
  obtain ⟨b, hb⟩ := b
  have h6 : (b.drop 10).take 6 = b.drop 10 := List.take_of_length_le (by simp [hb])
  simp [pseudoUuid, uuidGroups, hexBytes, cut, List.drop_take, List.drop_drop, h6,
    List.intercalate]

theorem intercalate_cons_cons {α : Type} (x : α) (g g' : List α) (gs : List (List α)) :
    [x].intercalate (g :: g' :: gs) = g ++ x :: [x].intercalate (g' :: gs) := by
  simp [List.intercalate]

/-- An element of lists joined by `x` is `x` or an element of one of the lists. -/
theorem mem_intercalate {α : Type} {x c : α} {gs : List (List α)} (h : c ∈ [x].intercalate gs) :
    c = x ∨ ∃ g ∈ gs, c ∈ g := by
  match gs, h with
  | [], h => simp [List.intercalate] at h
  | [g], h => exact .inr ⟨g, List.mem_singleton_self g, by simpa [List.intercalate] using h⟩
  | g :: g' :: gs, h =>
    rw [intercalate_cons_cons] at h
    rcases List.mem_append.mp h with h | h
    · exact .inr ⟨g, List.mem_cons_self g _, h⟩
    · rcases List.mem_cons.mp h with rfl | h
      · exact .inl rfl
      · rcases mem_intercalate h with h | ⟨g0, hg0, h⟩
        · exact .inl h
        · exact .inr ⟨g0, List.mem_cons_of_mem g hg0, h⟩

/-- The pieces of a list cut at lengths that cover it, flattened, give the list back. -/
theorem flatten_cut {α : Type} (ns : List Nat) (l : List α) (h : l.length ≤ ns.foldr (· + ·) 0) :
    (cut ns l).flatten = l := by
  induction ns generalizing l with
  | nil => simp only [List.foldr_nil, Nat.le_zero, List.length_eq_zero] at h; subst h; rfl
  | cons n ns ih =>
    rw [cut, List.flatten_cons,
      ih _ (by simp only [List.foldr_cons, List.length_drop] at h ⊢; omega), List.take_append_drop]

/-! ## What the names are -/

theorem uuidGroups_eq (b : UuidBytes) :
    uuidGroups b = cut [8, 4, 4, 4, 12] (b.bytes.flatMap hexPair) :=
  cut_flatMap_hexPair _ _

theorem map_length_uuidGroups (b : UuidBytes) :
    (uuidGroups b).map List.length = [8, 4, 4, 4, 12] := by
  simp only [uuidGroups_eq, cut, List.map_cons, List.map_nil, List.length_take, List.length_drop,
    length_flatMap_hexPair, b.length_eq]
  rfl

theorem flatten_uuidGroups (b : UuidBytes) : (uuidGroups b).flatten = b.bytes.flatMap hexPair := by
  rw [uuidGroups_eq, flatten_cut]
  simp only [length_flatMap_hexPair, b.length_eq]
  decide

theorem mem_uuidGroups {b : UuidBytes} {g : List Char} {c : Char} (hg : g ∈ uuidGroups b)
    (hc : c ∈ g) : c ∈ hexDigits := by
  obtain ⟨l, -, rfl⟩ := List.mem_map.mp hg
  obtain ⟨x, -, hx⟩ := List.mem_flatMap.mp hc
  exact mem_hexPair hx

theorem splitOn_pseudoUuid (b : UuidBytes) :
    (pseudoUuid (some b)).data.splitOn '-' = uuidGroups b := by
  rw [pseudoUuid_data]
  exact List.splitOn_intercalate (uuidGroups b) '-' (fun g hg hd => dash_not_mem_hexDigits (mem_uuidGroups hg hd))
    (by simp [uuidGroups, cut])

/-- **A name reads back as the bytes it was drawn from.** -/
theorem parseUuid_pseudoUuid (b : UuidBytes) : parseUuid (pseudoUuid (some b)) = some b.bytes := by
  dsimp only [parseUuid]
  rw [splitOn_pseudoUuid, if_pos (map_length_uuidGroups b), flatten_uuidGroups,
    unhex_flatMap_hexPair]

example : pseudoUuid (some ⟨[0, 1, 2, 3, 4, 5, 6, 7, 8, 9, 10, 11, 12, 13, 14, 255], rfl⟩) =
    "00010203-0405-0607-0809-0a0b0c0d0eff" := by decide

/-- **The names of the draws are the texts in the layout of a UUID.** -/
theorem uuidLayout_iff_pseudoUuid (s : String) : UuidLayout s ↔ ∃ b, pseudoUuid (some b) = s := by
  constructor
  · rintro ⟨hlen, hchars⟩
    -- between the dashes stand 32 digits; they read as sixteen bytes, whose name is the text
    have hd : ∀ c ∈ (s.data.splitOn '-').flatten, c ∈ hexDigits := fun c hc => by
      obtain ⟨g, hg, hc⟩ := List.mem_flatten.mp hc
      obtain ⟨hs, hne⟩ := mem_of_mem_splitOnP hg hc
      exact (hchars c hs).resolve_left (by simpa using hne)
    have h32 : (s.data.splitOn '-').flatten.length = 32 := by
      rw [List.length_flatten, hlen]; rfl
    obtain ⟨l, hl⟩ := unhex_isSome hd (by omega)
    have hw := flatMap_hexPair_of_unhex hl
    have h16 : l.length = 16 := by
      have := congrArg List.length hw
      rw [length_flatMap_hexPair, h32] at this
      omega
    refine ⟨⟨l, h16⟩, String.ext ?_⟩
    rw [pseudoUuid_data, uuidGroups_eq, hw, ← hlen, cut_flatten, List.intercalate_splitOn]
  · rintro ⟨b, rfl⟩
    refine ⟨by rw [splitOn_pseudoUuid, map_length_uuidGroups], fun c hc => ?_⟩
    rw [pseudoUuid_data] at hc
    rcases mem_intercalate hc with h | ⟨g, hg, hc⟩
    · exact .inl h
    · exact .inr (mem_uuidGroups hg hc)

end CsiCloudscale

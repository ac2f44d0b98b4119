/-
  The metrics reader of the integration tests (src/unnamed/part_000, lines 1387-1453).

  The end-to-end tests check the volume statistics the node plugin exports by reading its
  Prometheus text exposition.  `generateMetricsObject` cuts the body into lines with a
  `bufio.Scanner` (`scanLines`), skips the lines that start with `#`, and parses every other line
  with `generateMetricEntry`: the text up to the first space is the metric, its labels running
  from the first `{` to the first `}`, and the text up to the next space is the value.  The
  scanner holds lines of less than `bufio.MaxScanTokenSize` (64 KiB) bytes; at a longer line
  `Scan` stops with `ErrTooLong`, which the reader never checks, so the lines from there on are
  not read.
  `findByLabel` then answers the first entry of a name whose labels contain a given text.  Go's
  `strings.Split` with a one-character separator is `List.splitOn`; a panic (an index or a slice
  out of range) is `none`.

  The main results:
  * a well-formed metric's line reads back as the metric (`generateMetricEntry_line`), and a
    whole exposition of comments and well-formed metrics, each line shorter than the scanner's
    limit, reads back as its metrics, in order,
    after the `1000` empty entries of `make([]MetricEntry, 1000)`
    (`generateMetricsObject_exposition`);
  * so `findByLabel` on it answers the first exported metric of the name with the label text,
    for every name but `""` (`findByLabel_exposition`);
  * a line that the scanner reaches, is not a comment and has no space, a blank line included,
    makes the reader panic, whatever the rest of the body (`generateMetricsObject_eq_none`).
-/
import Mathlib.Data.List.Basic
import Mathlib.Data.List.Infix

namespace CsiCloudscale

/-! ## Go's string functions, on the characters of a string -/

/-- `strings.Index(s, string(c))`: the index of the first `c` in `s`, `-1` when there is none. -/
def goIndex (s : List Char) (c : Char) : Int := if c ∈ s then s.indexOf c else -1

/-- `s[lo:hi]`: the characters from `lo` up to `hi`; a panic, `none`, unless
    `0 ≤ lo ≤ hi ≤ len(s)`. -/
def goSlice (s : List Char) (lo hi : Int) : Option (List Char) :=
  if 0 ≤ lo ∧ lo ≤ hi ∧ hi ≤ s.length then some ((s.take hi.toNat).drop lo.toNat) else none

/-- `dropCR`: a line without its final `\r`. -/
def dropCR (data : List Char) : List Char :=
  if data.getLast? = some '\r' then data.dropLast else data

/-- `bufio.MaxScanTokenSize`: the longest line, in bytes, a `bufio.Scanner` holds by default. -/
def maxScanTokenSize : Nat := 64 * 1024

/-- The lines a `bufio.Scanner` with `bufio.ScanLines` gives for a body: the pieces between the
    newlines, each without a final `\r`, and no empty piece after a final newline.  `Scan` stops
    at the first piece of `MaxScanTokenSize` bytes or more, which does not fit its buffer
    (`ErrTooLong`): that piece and every one after it are never read. -/
def scanLines (data : List Char) : List (List Char) :=
  let pieces := data.splitOn '\n'
  let tokens := if pieces.getLast? = some [] then pieces.dropLast else pieces
  (tokens.takeWhile fun token => (String.mk token).utf8ByteSize < maxScanTokenSize).map dropCR

/-! ## The reader -/

structure MetricEntry where
  metricName : String
  labels : String
  value : String
  deriving DecidableEq, Repr

structure MetricsSet where
  entries : List MetricEntry
  deriving DecidableEq, Repr

/-- `generateMetricEntry(line)`: the text up to the first space is the metric, with its labels
    from the first `{` to the first `}`, and the text up to the next space is the value.  A
    panic (`split[1]` of a line without a space, or a `}` missing or before the `{`) is
    `none`. -/
def generateMetricEntry (line : String) : Option MetricEntry := do
  let split := line.toList.splitOn ' '
  let split0 ← split[0]?
  if '{' ∈ split0 then
    let start := goIndex split0 '{'
    let endIndex := goIndex split0 '}'
    let metricLabels ← goSlice split0 start (endIndex + 1)
    let name ← goSlice split0 0 start
    let value ← split[1]?
    return ⟨⟨name⟩, ⟨metricLabels⟩, ⟨value⟩⟩
  let value ← split[1]?
  return ⟨⟨split0⟩, "", ⟨value⟩⟩

/-- `generateMetricsObject`: the metrics of a body, after the `1000` empty entries of
    `make([]MetricEntry, 1000)`; a line starting with `#` is skipped. -/
def generateMetricsObject (rawBody : String) : Option MetricsSet := do
  let lines := (scanLines rawBody.toList).filter fun line => !(['#'].isPrefixOf line)
  let metrics ← lines.mapM fun line => generateMetricEntry ⟨line⟩
  return ⟨List.replicate 1000 ⟨"", "", ""⟩ ++ metrics⟩

/-- `filterByName`: the entries of a name, in order. -/
def MetricsSet.filterByName (km : MetricsSet) (name : String) : List MetricEntry :=
  km.entries.filter (·.metricName = name)

/-- `findByLabel`: the first entry of a name whose labels contain the text asked for. -/
def MetricsSet.findByLabel (km : MetricsSet) (name dictSubstring : String) :
    Except String MetricEntry :=
  match (km.filterByName name).find? fun s => decide (dictSubstring.toList <:+: s.labels.toList) with
  | some s => .ok s
  | none => .error ("Could not find metric with name " ++ name ++ " and label containg " ++
      dictSubstring)

/-! ## Reading a line back -/

/-- The line of the text format a metric is written on: its name, its labels, a space, its
    value. -/
def MetricEntry.line (e : MetricEntry) : String := e.metricName ++ e.labels ++ " " ++ e.value

/-- A metric that one line of the text format holds: no space, brace or newline in the name,
    which does not start a comment; labels that are empty or one pair of braces with no space,
    `}` or newline between them; a value with no space or newline, not ending in `\r`. -/
structure MetricEntry.WellFormed (e : MetricEntry) : Prop where
  name_plain : ∀ c ∈ e.metricName.toList, c ≠ ' ' ∧ c ≠ '{' ∧ c ≠ '}' ∧ c ≠ '\n'
  name_not_comment : e.metricName.toList.head? ≠ some '#'
  labels_braced : e.labels = "" ∨ ∃ inner : List Char, e.labels.toList = '{' :: inner ++ ['}'] ∧
    ∀ c ∈ inner, c ≠ ' ' ∧ c ≠ '}' ∧ c ≠ '\n'
  value_plain : ∀ c ∈ e.value.toList, c ≠ ' ' ∧ c ≠ '\n'
  value_no_cr : e.value.toList.getLast? ≠ some '\r'

theorem toList_line (e : MetricEntry) :
    e.line.toList = e.metricName.toList ++ e.labels.toList ++ ' ' :: e.value.toList := by
  simp [MetricEntry.line, String.toList, List.append_assoc]

/-- Splitting at the first separator, when the text before it has none. -/
theorem splitOn_append_of_not_mem {sep : Char} {xs : List Char} (ys : List Char)
    (h : sep ∉ xs) : (xs ++ sep :: ys).splitOn sep = xs :: ys.splitOn sep :=
  List.splitOnP_first _ _ (fun x hx => by simpa using ne_of_mem_of_not_mem hx h) sep (by simp) ys

theorem splitOn_of_not_mem {sep : Char} {xs : List Char} (h : sep ∉ xs) :
    xs.splitOn sep = [xs] :=
  List.splitOnP_eq_single _ _ fun x hx => by simpa using ne_of_mem_of_not_mem hx h

theorem split_line {e : MetricEntry} (h : e.WellFormed) :
    e.line.toList.splitOn ' ' = [e.metricName.toList ++ e.labels.toList, e.value.toList] := by
  have hl : ' ' ∉ e.labels.toList := by
    rcases h.labels_braced with hl | ⟨inner, hl, hi⟩
    · simp [hl]
    · have := fun hm => (hi ' ' hm).1 rfl
      simp_all
  rw [toList_line, splitOn_append_of_not_mem _ (by
      simp only [List.mem_append, not_or]; exact ⟨fun hm => (h.name_plain _ hm).1 rfl, hl⟩),
    splitOn_of_not_mem fun hm => (h.value_plain _ hm).1 rfl]


theorem goIndex_append_cons {xs ys : List Char} {c : Char} (h : c ∉ xs) :
    goIndex (xs ++ c :: ys) c = xs.length := by
  simp [goIndex, List.indexOf_append_of_not_mem h]

theorem goSlice_append_right (xs ys : List Char) :
    goSlice (xs ++ ys) xs.length (xs ++ ys).length = some ys := by
  rw [goSlice, if_pos (by simp only [List.length_append]; omega), Int.toNat_ofNat, Int.toNat_ofNat, List.take_length,
    List.drop_left]

theorem goSlice_append_left (xs ys : List Char) :
    goSlice (xs ++ ys) 0 xs.length = some xs := by
  rw [goSlice, if_pos (by simp only [List.length_append]; omega)]
  simp

/-- **A metric's line reads back as the metric.** -/
theorem generateMetricEntry_line {e : MetricEntry} (h : e.WellFormed) :
    generateMetricEntry e.line = some e := by
  obtain ⟨name, labels, value⟩ := e
  unfold generateMetricEntry
  rw [split_line h]
  simp only [List.getElem?_cons_zero, List.getElem?_cons_succ]
  dsimp only [bind, Option.bind, String.toList]
  have hn : '{' ∉ name.data := fun hm => (h.name_plain _ hm).2.1 rfl
  rcases h.labels_braced with rfl | ⟨inner, hl, hi⟩
  · simp [hn]
  -- the labels are `{`, then text without `}`, then `}`
  have hc : '}' ∉ name.data := fun hm => (h.name_plain _ hm).2.2.1 rfl
  have hci : '}' ∉ inner := fun hm => (hi _ hm).2.1 rfl
  change labels.data = _ at hl
  have h1 : goIndex (name.data ++ labels.data) '{' = name.data.length := by
    rw [hl, List.cons_append]; exact goIndex_append_cons hn
  have h2 : goIndex (name.data ++ labels.data) '}' + 1 = (name.data ++ labels.data).length := by
    rw [hl]
    simp [goIndex, List.indexOf_append_of_not_mem hc, List.indexOf_append_of_not_mem hci, hc]
    omega
  have hm : '{' ∈ name.data ++ labels.data := by simp [hl]
  rw [if_pos hm, h1, h2, goSlice_append_right, goSlice_append_left]
  rfl

example : generateMetricEntry "volume_stats\x7bpvc=pvc-1\x7d 42 1700000000" =
    some ⟨"volume_stats", "\x7bpvc=pvc-1\x7d", "42"⟩ := by decide

/-! ## Reading a whole exposition -/

/-- A line of the text format: a comment, or a metric. -/
inductive ExpositionLine
  | comment (text : String)
  | metric (e : MetricEntry)

/-- The text of a line. -/
def ExpositionLine.text : ExpositionLine → String
  | .comment text => "#" ++ text
  | .metric e => e.line

/-- A line that one `Scan` reads whole: shorter than `MaxScanTokenSize` bytes, and a comment
    without a newline or a well-formed metric. -/
def ExpositionLine.WellFormed (l : ExpositionLine) : Prop :=
  l.text.utf8ByteSize < maxScanTokenSize ∧
    match l with
    | .comment text => '\n' ∉ text.toList
    | .metric e => e.WellFormed

/-- The metric of a line, if it is one. -/
def ExpositionLine.metric? : ExpositionLine → Option MetricEntry
  | .comment _ => none
  | .metric e => some e

/-- An exposition: every line followed by a newline. -/
def exposition (ls : List ExpositionLine) : String :=
  ⟨ls.flatMap fun l => l.text.toList ++ ['\n']⟩

theorem newline_not_mem_text {l : ExpositionLine} (hl : l.WellFormed) :
    '\n' ∉ l.text.toList := by
  have h := hl.2
  cases l with
  | comment text => simpa [ExpositionLine.text, String.toList] using h
  | metric e =>
    have hl : '\n' ∉ e.labels.toList := by
      rcases h.labels_braced with hl | ⟨inner, hl, hi⟩
      · simp [hl]
      · have := fun hm => (hi '\n' hm).2.2 rfl
        simp_all
    simp only [ExpositionLine.text, toList_line, List.mem_append, List.mem_cons, not_or]
    exact ⟨⟨fun hm => (h.name_plain _ hm).2.2.2 rfl, hl⟩, by decide,
      fun hm => (h.value_plain _ hm).2 rfl⟩

theorem splitOn_exposition {ls : List ExpositionLine} (hls : ∀ l ∈ ls, l.WellFormed) :
    (exposition ls).toList.splitOn '\n' = ls.map (·.text.toList) ++ [[]] := by
  induction ls with
  | nil => rfl
  | cons l ls ih =>
    simp only [List.forall_mem_cons] at hls
    have e : (exposition (l :: ls)).toList = l.text.toList ++ '\n' :: (exposition ls).toList := by
      simp [exposition, String.toList]
    rw [e, splitOn_append_of_not_mem _ (newline_not_mem_text hls.1), ih hls.2]
    rfl

theorem scanLines_exposition {ls : List ExpositionLine} (hls : ∀ l ∈ ls, l.WellFormed) :
    scanLines (exposition ls).toList = (ls.map (·.text.toList)).map dropCR := by
  unfold scanLines
  rw [splitOn_exposition hls]
  -- no empty piece after the last newline, and every line fits the scanner's buffer
  have hlast : (ls.map (fun l : ExpositionLine => l.text.toList) ++ [[]]).getLast? = some [] := by
    simp
  have hfit : (ls.map fun l : ExpositionLine => l.text.toList).takeWhile
      (fun token => (String.mk token).utf8ByteSize < maxScanTokenSize) =
        ls.map fun l : ExpositionLine => l.text.toList :=
    List.takeWhile_eq_self_iff.mpr fun _ hx => by
      obtain ⟨l, hl, rfl⟩ := List.mem_map.mp hx
      exact decide_eq_true (hls l hl).1
  dsimp only
  rw [if_pos hlast, List.dropLast_concat, hfit]

/-- A comment stays a comment when `dropCR` cuts its last character. -/
theorem isPrefixOf_hash_dropCR (t : List Char) : ['#'].isPrefixOf (dropCR ('#' :: t)) = true := by
  cases t with
  | nil => rfl
  | cons c t => unfold dropCR; split <;> simp [List.dropLast_cons₂]

theorem dropCR_line {e : MetricEntry} (h : e.WellFormed) : dropCR e.line.toList = e.line.toList := by
  have hv := h.value_no_cr
  unfold dropCR
  rw [if_neg]
  rw [toList_line, List.getLast?_append, List.getLast?_cons]
  cases hl : e.value.toList.getLast? with
  | none => simp
  | some c => rw [hl] at hv; simpa using hv

theorem isPrefixOf_hash_cons (c : Char) (t : List Char) :
    ['#'].isPrefixOf (c :: t) = decide (c = '#') := by
  by_cases hc : c = '#'
  · simp [List.isPrefixOf, hc]
  · simp [List.isPrefixOf, hc, Ne.symm hc]

/-- A metric's line does not start a comment. -/
theorem isPrefixOf_hash_line {e : MetricEntry} (h : e.WellFormed) :
    ['#'].isPrefixOf e.line.toList = false := by
  rw [toList_line]
  have hn := h.name_not_comment
  rcases hname : e.metricName.toList with _ | ⟨c, name⟩
  · rcases h.labels_braced with hl | ⟨inner, hl, -⟩
    · rw [hl]; rfl
    · rw [List.nil_append, hl, List.cons_append, List.cons_append, isPrefixOf_hash_cons]; rfl
  · rw [hname] at hn
    rw [List.cons_append, List.cons_append, isPrefixOf_hash_cons]
    simpa using hn

theorem lines_exposition {ls : List ExpositionLine} (hls : ∀ l ∈ ls, l.WellFormed) :
    ((ls.map (·.text.toList)).map dropCR).filter (fun line => !(['#'].isPrefixOf line)) =
      (ls.filterMap ExpositionLine.metric?).map (·.line.toList) := by
  induction ls with
  | nil => rfl
  | cons l ls ih =>
    simp only [List.forall_mem_cons] at hls
    cases l with
    | comment text =>
      have hc : ['#'].isPrefixOf (dropCR (ExpositionLine.comment text).text.toList) = true :=
        isPrefixOf_hash_dropCR text.toList
      simp only [List.map_cons, List.filter_cons, hc, Bool.not_true, Bool.false_eq_true, if_false,
        ExpositionLine.metric?, List.filterMap_cons_none]
      exact ih hls.2
    | metric e =>
      have hm : dropCR (ExpositionLine.metric e).text.toList = e.line.toList := dropCR_line hls.1.2
      simp only [List.map_cons, List.filter_cons, hm, isPrefixOf_hash_line hls.1.2, Bool.not_false,
        if_true, ExpositionLine.metric?, List.filterMap_cons_some]
      exact congrArg _ (ih hls.2)

theorem mapM_generateMetricEntry {es : List MetricEntry} (hes : ∀ e ∈ es, e.WellFormed) :
    (es.map (·.line.toList)).mapM (fun line => generateMetricEntry ⟨line⟩) = some es := by
  induction es with
  | nil => rfl
  | cons e es ih =>
    simp only [List.forall_mem_cons] at hes
    simp only [List.map_cons, List.mapM_cons, ih hes.2]
    rw [show (⟨e.line.toList⟩ : String) = e.line from rfl, generateMetricEntry_line hes.1]
    rfl

/-- The metrics of an exposition, in order. -/
def metricsOf (ls : List ExpositionLine) : List MetricEntry := ls.filterMap ExpositionLine.metric?

theorem wellFormed_of_mem_metricsOf {ls : List ExpositionLine} (hls : ∀ l ∈ ls, l.WellFormed)
    {e : MetricEntry} (he : e ∈ metricsOf ls) : e.WellFormed := by
  obtain ⟨l, hl, hm⟩ := List.mem_filterMap.mp he
  cases l with
  | comment => cases hm
  | metric e' => cases hm; exact (hls _ hl).2

/-- **An exposition reads back as its metrics.**  The metrics set of an exposition of well-formed
    lines is its metrics, in order, after the `1000` empty entries. -/
theorem generateMetricsObject_exposition {ls : List ExpositionLine}
    (hls : ∀ l ∈ ls, l.WellFormed) :
    generateMetricsObject (exposition ls) =
      some ⟨List.replicate 1000 ⟨"", "", ""⟩ ++ metricsOf ls⟩ := by
  unfold generateMetricsObject
  rw [scanLines_exposition hls, lines_exposition hls]
  dsimp only
  rw [show ls.filterMap ExpositionLine.metric? = metricsOf ls from rfl,
    mapM_generateMetricEntry fun e he => wellFormed_of_mem_metricsOf hls he]
  rfl

/-- `findByLabel` answers an entry exactly when `find?` finds it among the entries of the name. -/
theorem findByLabel_eq_ok_iff (km : MetricsSet) (name sub : String) (e : MetricEntry) :
    km.findByLabel name sub = .ok e ↔
      (km.filterByName name).find? (fun s => decide (sub.toList <:+: s.labels.toList)) = some e := by
  unfold MetricsSet.findByLabel
  split
  next s hs => rw [hs]; simp
  next hs => rw [hs]; simp

/-- **The harness finds the first exported metric of a name with a label text.**  For a name
    other than `""`, `findByLabel` on the metrics set of a well-formed exposition answers the
    first metric of the exposition with that name whose labels contain the text; the `1000`
    empty entries in front are never answered. -/
theorem findByLabel_exposition {ls : List ExpositionLine} (hls : ∀ l ∈ ls, l.WellFormed)
    {name : String} (hname : name ≠ "") (sub : String) (e : MetricEntry) :
    (generateMetricsObject (exposition ls)).map (·.findByLabel name sub) = some (.ok e) ↔
      e.metricName = name ∧ sub.toList <:+: e.labels.toList ∧
        ∃ pre post, metricsOf ls = pre ++ e :: post ∧
          ∀ e' ∈ pre, ¬(e'.metricName = name ∧ sub.toList <:+: e'.labels.toList) := by
  have hrep : (List.replicate 1000 (⟨"", "", ""⟩ : MetricEntry)).filter
      (fun x => decide (x.metricName = name)) = [] :=
    List.filter_eq_nil_iff.mpr fun x hx => by
      rw [List.eq_of_mem_replicate hx]; simpa using fun h => hname h.symm
  rw [generateMetricsObject_exposition hls, Option.map_some', Option.some_inj,
    findByLabel_eq_ok_iff]
  simp only [MetricsSet.filterByName, List.filter_append, hrep, List.nil_append,
    List.find?_filter, List.find?_eq_some, decide_eq_true_eq, Bool.not_eq_true',
    decide_eq_false_iff_not, and_assoc]

/-- The metric `volume_stats` of the persistent volume claim `pvc-1`. -/
def pvcStats : MetricEntry := ⟨"volume_stats", "\x7bpvc=pvc-1\x7d", "42"⟩

/-- An exposition of `pvcStats` after a comment. -/
def pvcExposition : List ExpositionLine := [.comment " TYPE volume_stats gauge", .metric pvcStats]

theorem findByLabel_pvcExposition :
    (∀ l ∈ pvcExposition, l.WellFormed) ∧ "volume_stats" ≠ "" ∧
    ((generateMetricsObject (exposition pvcExposition)).map
        (·.findByLabel "volume_stats" "pvc-1") = some (.ok pvcStats) ↔
      pvcStats.metricName = "volume_stats" ∧ "pvc-1".toList <:+: pvcStats.labels.toList ∧
        ∃ pre post, metricsOf pvcExposition = pre ++ pvcStats :: post ∧
          ∀ e' ∈ pre, ¬(e'.metricName = "volume_stats" ∧ "pvc-1".toList <:+: e'.labels.toList)) :=
  have hls : ∀ l ∈ pvcExposition, l.WellFormed := by
    simp only [pvcExposition, List.mem_cons, List.mem_singleton, List.not_mem_nil, or_false,
      forall_eq_or_imp, forall_eq]
    exact ⟨⟨by decide, show '\n' ∉ " TYPE volume_stats gauge".toList by decide⟩,
      ⟨by decide, by decide, by decide, .inr ⟨"pvc=pvc-1".toList, rfl, by decide⟩, by decide,
        by decide⟩⟩
  have hname : "volume_stats" ≠ "" := by decide
  ⟨hls, hname, findByLabel_exposition hls hname "pvc-1" pvcStats⟩

/-! ## Lines the reader cannot read -/

theorem generateMetricEntry_of_not_mem {line : List Char} (hs : ' ' ∉ line) :
    generateMetricEntry ⟨line⟩ = none := by
  unfold generateMetricEntry
  simp only [String.toList, splitOn_of_not_mem hs, List.getElem?_cons_zero,
    List.getElem?_cons_succ, List.getElem?_nil]
  dsimp only [bind, Option.bind]
  split
  · cases goSlice line (goIndex line '{') (goIndex line '}' + 1) <;> dsimp only
    cases goSlice line 0 (goIndex line '{') <;> rfl
  · rfl

theorem mapM_eq_none_of_mem {α β : Type} {f : α → Option β} {l : List α} {x : α} (hx : x ∈ l)
    (hf : f x = none) : l.mapM f = none := by
  induction l with
  | nil => cases hx
  | cons y l ih =>
    rcases List.mem_cons.mp hx with rfl | hx
    · rw [List.mapM_cons, hf]; rfl
    · rw [List.mapM_cons, ih hx]; cases f y <;> rfl

/-- **A line without a space aborts the reader.**  A line the scanner reaches that is not a
    comment and has no space, a blank line included, makes `generateMetricEntry` index
    `split[1]` out of range: the reader panics, whatever the other lines. -/
theorem generateMetricsObject_eq_none {body : String} {line : List Char}
    (hl : line ∈ scanLines body.toList) (hc : ['#'].isPrefixOf line = false) (hs : ' ' ∉ line) :
    generateMetricsObject body = none := by
  unfold generateMetricsObject
  dsimp only
  rw [mapM_eq_none_of_mem (List.mem_filter.mpr ⟨hl, by simp [hc]⟩)
    (generateMetricEntry_of_not_mem hs)]
  rfl

/-- An exposition with a blank line between two metrics. -/
theorem generateMetricsObject_blank_line :
    ([] : List Char) ∈ scanLines "a 1\n\nb 2\n".toList ∧ ['#'].isPrefixOf [] = false ∧
      ' ' ∉ ([] : List Char) ∧ generateMetricsObject "a 1\n\nb 2\n" = none :=
  ⟨by decide, rfl, List.not_mem_nil _,
    @generateMetricsObject_eq_none "a 1\n\nb 2\n" [] (by decide) rfl (List.not_mem_nil _)⟩

/-! ## Lines the scanner cannot hold -/

end CsiCloudscale

/-
  Concurrent RPCs: several controller calls in flight against one backend.

  The CSI sidecars may call the controller concurrently, and nothing in `controller.go` orders
  two calls: each RPC runs its own sequence of backend calls.  A `Threads` value is a backend
  state and, per RPC in flight, the `Client` program it has left to run; `Threads.step` lets one
  of them make its next call, so a schedule (the list of threads that call, in order) is one
  interleaving at the backend-call boundaries, the only points where two RPCs can observe each
  other.  Everything between two calls runs in one step, as it touches no shared state.

  The backend draws the UUID of each create from a supply (`fakeDrawing`), so that two creates
  get two UUIDs, as two calls of `randString(32)` do.

  `CreateVolume` makes its lookup and its create in two calls, and checks nothing in between.
  A race of such calls is first described in the abstract (`Race`): each call is at its lookup,
  at its create, or done, and the store holds `count` volumes of the name.  Every call that looks
  the name up before the first create goes on to create it; every later lookup finds the name
  and creates nothing, whatever size or type its request asks for.  So once all calls have
  finished, the store holds as many volumes of the name as there were lookups before the first
  create (`Race.count_add_of_run_start`).  The threads running `CreateVolume` on any requests of
  one name refine the race, a request that fails its checks being a call that is done from the
  start (`Simulates.run`), which gives the law for the code (`concurrent_creates`); two creates
  whose lookups both come first store the name twice (`concurrent_creates_duplicate_pvc`).
-/
import Mathlib.Algebra.Order.Ring.Int
import CsiCloudscale.Create

namespace CsiCloudscale

open Csi Cloudscale

/-! ## Threads -/

/-- RPCs in flight at once against one backend: the backend's state and, per RPC, the program
    it has left to run. -/
structure Threads (σ α : Type) where
  state : σ
  threads : List (Client α)

namespace Threads

variable {σ α : Type} (h : Handler σ)

/-- Thread `i` makes its next call; `none` if there is no such thread, it has finished, or the
    backend crashes. -/
def step (t : Threads σ α) (i : Nat) : Option (Threads σ α) :=
  match t.threads[i]? with
  | some (.call c k) => (h c t.state).map fun (r, s') => ⟨s', t.threads.set i (k r)⟩
  | _ => none

/-- Run a schedule: the threads that make their next call, in order. -/
def run : Threads σ α → List Nat → Option (Threads σ α)
  | t, [] => some t
  | t, i :: is => (t.step h i).bind fun t' => t'.run is

/-- A step is one call of a thread that has not finished, answered by the backend. -/
theorem step_eq_some {t t' : Threads σ α} {i : Nat} (ht : t.step h i = some t') :
    ∃ c k r s', t.threads[i]? = some (.call c k) ∧ h c t.state = some (r, s') ∧
      t' = ⟨s', t.threads.set i (k r)⟩ := by
  unfold step at ht
  split at ht
  · obtain ⟨⟨r, s'⟩, hr, rfl⟩ := Option.map_eq_some'.mp ht
    exact ⟨_, _, r, s', ‹_›, hr, rfl⟩
  · cases ht

end Threads

variable (K : Names) (d : Driver) (m : Nat)

/-- The fake, drawing the UUID of each create from a supply; a create with the supply spent
    crashes the backend. -/
def fakeDrawing : Handler (Cloud × List String)
  | .create _, (_, []) => none
  | .create req, (s, newId :: ids) =>
    (fake m newId (.create req) s).map fun (r, s') => (r, (s', ids))
  | c, (s, ids) => (fake m "" c s).map fun (r, s') => (r, (s', ids))

@[simp] theorem fakeDrawing_create (req : VolumeRequest) (s : Cloud) (newId : String)
    (ids : List String) :
    fakeDrawing m (.create req) (s, newId :: ids) =
      some (.ok (createdVolume newId req), (s.put (createdVolume newId req), ids)) := rfl

theorem fakeDrawing_list {name : String} (h : name ≠ "") (s : Cloud) (ids : List String) :
    fakeDrawing m (.list (some name)) (s, ids) =
      some (.ok (s.volumes.filter (·.name = name)), (s, ids)) := by
  simp [fakeDrawing, fake, h]

/-! ## The race in the abstract -/

/-- Where one call of a race of lookups and creates stands. -/
inductive Phase
  | lookup
  | create
  | done
  deriving DecidableEq, Repr

/-- A race of calls that each look a name up and create it if the lookup finds nothing: the
    phase of each call, and how many volumes of the name the store holds. -/
structure Race where
  phases : List Phase
  count : Nat
  deriving DecidableEq, Repr

namespace Race

/-- Call `i` takes its next step: a lookup that finds nothing goes on to create, one that finds
    the name is done; a create adds a volume of the name. -/
def step (r : Race) (i : Nat) : Option Race :=
  match r.phases[i]? with
  | some .lookup => some ⟨r.phases.set i (if r.count = 0 then .create else .done), r.count⟩
  | some .create => some ⟨r.phases.set i .done, r.count + 1⟩
  | _ => none

/-- Run a schedule of calls. -/
def run : Race → List Nat → Option Race
  | r, [] => some r
  | r, i :: is => (r.step i).bind (·.run is)

/-- The calls in the phases `phs`, and no volume of the name. -/
def start (phs : List Phase) : Race := ⟨phs, 0⟩

/-- Before the first create: the calls of `seen` have looked up and wait to create, the others
    are in the phase `phs` gives them. -/
def before (phs : List Phase) (seen : List Nat) : Race :=
  ⟨(List.range phs.length).map fun i => if i ∈ seen then .create else phs.getD i .done, 0⟩

end Race

/-- The calls of a schedule that look the name up before the first create: its calls up to the
    first one named twice, after those of `seen`. -/
def firstLookups : List Nat → List Nat → List Nat
  | seen, [] => seen
  | seen, i :: is => if i ∈ seen then seen else firstLookups (seen ++ [i]) is

/-- Setting one place of a list changes a count by what leaves the place and what enters it. -/
theorem countP_set_add {α : Type} {l : List α} {i : Nat} {x : α} (h : l[i]? = some x) (a : α)
    (p : α → Bool) :
    (l.set i a).countP p + (if p x then 1 else 0) = l.countP p + (if p a then 1 else 0) := by
  induction l generalizing i with
  | nil => simp at h
  | cons y l ih =>
    cases i with
    | zero =>
      simp only [List.getElem?_cons_zero, Option.some.injEq] at h
      subst h
      simp only [List.set_cons_zero, List.countP_cons]
      omega
    | succ i =>
      have := ih (by simpa only [List.getElem?_cons_succ] using h)
      simp only [List.set_cons_succ, List.countP_cons]
      omega

namespace Race

/-- Once the store holds a volume of the name, a lookup finishes without a create, so a step
    keeps the volumes and the creates still to come adding up to the same number. -/
theorem step_of_count_pos {r r' : Race} {i : Nat} (h : r.step i = some r') (hc : 0 < r.count) :
    0 < r'.count ∧
      r'.count + r'.phases.countP (· = .create) = r.count + r.phases.countP (· = .create) := by
  unfold step at h
  split at h <;> cases h
  · -- a lookup finds the name: the call is done
    rename_i hi
    have := countP_set_add hi .done (· = .create)
    simp only [Nat.pos_iff_ne_zero.mp hc, if_false]
    simp at this
    exact ⟨hc, by rw [this]⟩
  · -- a create: one more volume, one create fewer to come
    rename_i hi
    have := countP_set_add hi .done (· = .create)
    simp at this
    dsimp only
    omega

theorem run_of_count_pos {r r' : Race} {sched : List Nat} (h : r.run sched = some r')
    (hc : 0 < r.count) :
    r'.count + r'.phases.countP (· = .create) = r.count + r.phases.countP (· = .create) := by
  induction sched generalizing r with
  | nil => cases h; rfl
  | cons i is ih =>
    obtain ⟨r1, h1, h⟩ := Option.bind_eq_some.mp h
    obtain ⟨hc1, h1⟩ := step_of_count_pos h1 hc
    rw [ih h hc1, h1]

section Before

variable {phs : List Phase} {seen : List Nat}

theorem getElem?_before (i : Nat) :
    (before phs seen).phases[i]? = phs[i]?.map fun ph => if i ∈ seen then .create else ph := by
  by_cases hi : i < phs.length
  · simp [before, hi, List.getD_eq_getElem?_getD, List.getElem?_eq_getElem hi]
  · have hn := Nat.le_of_not_lt hi
    have hr : (List.range phs.length).length ≤ i := by rwa [List.length_range]
    simp only [before, List.getElem?_map, List.getElem?_eq_none hr, List.getElem?_eq_none hn,
      Option.map_none']

theorem before_nil (phs : List Phase) : before phs [] = start phs :=
  congrArg (fun l => Race.mk l 0)
    (List.ext_getElem? fun i => by
      show (before phs []).phases[i]? = phs[i]?
      simpa using @getElem?_before phs [] i)

/-- Before the first create, a lookup finds nothing, and its call goes on to create. -/
theorem step_before_lookup {i : Nat} (hi : phs[i]? = some .lookup) (hn : i ∉ seen) :
    (before phs seen).step i = some (before phs (seen ++ [i])) := by
  have h0 : (before phs seen).count = 0 := rfl
  have hset : (before phs seen).phases.set i .create = (before phs (seen ++ [i])).phases :=
    List.ext_getElem? fun j => by
      rw [List.getElem?_set, getElem?_before, getElem?_before]
      by_cases hj : i = j
      · subst hj; simp [before, hi, (List.getElem?_eq_some_iff.mp hi).1]
      · simp [hj, Ne.symm hj]
  simp only [step, getElem?_before, hi, Option.map_some', hn, if_false, h0, if_true, hset]
  rfl

theorem step_before_create {i : Nat} (hi : phs[i]? = some .lookup) (hs : i ∈ seen) :
    (before phs seen).step i = some ⟨(before phs seen).phases.set i .done, 1⟩ := by
  simp only [step, getElem?_before, hi, Option.map_some', hs, if_true]
  rfl

/-- A call that is done, or no call at all, takes no step. -/
theorem step_before_none {i : Nat} (hc : .create ∉ phs) (hi : phs[i]? ≠ some .lookup)
    (hn : i ∉ seen) : (before phs seen).step i = none := by
  rcases h : phs[i]? with _ | ph
  · simp [step, getElem?_before, h]
  · cases ph
    · exact absurd h hi
    · exact absurd (List.getElem?_mem h) hc
    · simp [step, getElem?_before, h, hn]

/-- The calls waiting to create, before the first create, are the ones in `seen`. -/
theorem countP_create_before (hc : .create ∉ phs) (hs : seen.Nodup)
    (hk : ∀ i ∈ seen, phs[i]? = some .lookup) :
    (before phs seen).phases.countP (· = .create) = seen.length := by
  simp only [before, List.countP_map]
  rw [List.countP_eq_length_filter]
  refine List.Perm.length_eq ((List.perm_ext_iff_of_nodup ((List.nodup_range _).filter _) hs).mpr
    fun i => ?_)
  simp only [List.mem_filter, List.mem_range, Function.comp, decide_eq_true_eq]
  constructor
  · rintro ⟨-, h⟩
    by_contra hn
    rw [if_neg hn, List.getD_eq_getElem?_getD] at h
    rcases hi : phs[i]? with _ | ph
    · simp [hi] at h
    · simp only [hi, Option.getD_some] at h
      exact hc (h ▸ List.getElem?_mem hi)
  · exact fun h => ⟨(List.getElem?_eq_some_iff.mp (hk i h)).1, by simp [h]⟩

/-- **Before the first create.**  From the phases where the calls of `seen` have looked up and
    the others are as `phs` says, every run leaves as many volumes and creates still to come,
    together, as there are calls whose lookup comes before the first create. -/
theorem run_before {sched : List Nat} {r : Race} (hc : .create ∉ phs) (hs : seen.Nodup)
    (hk : ∀ i ∈ seen, phs[i]? = some .lookup) (h : (before phs seen).run sched = some r) :
    r.count + r.phases.countP (· = .create) = (firstLookups seen sched).length := by
  induction sched generalizing seen with
  | nil =>
    cases h
    simp only [firstLookups, countP_create_before hc hs hk]
    exact Nat.zero_add _
  | cons i is ih =>
    by_cases hi : i ∈ seen
    · -- the first create: from here on no lookup creates
      rw [run, step_before_create (hk i hi) hi, Option.some_bind] at h
      have hx : (before phs seen).phases[i]? = some .create := by
        simp [getElem?_before, hk i hi, hi]
      have h1 := run_of_count_pos h Nat.one_pos
      have h2 := countP_set_add hx Phase.done (· = .create)
      rw [countP_create_before hc hs hk] at h2
      simp only [firstLookups, hi, if_true]
      simp only [decide_True, ↓reduceIte, reduceCtorEq, decide_False, Bool.false_eq_true, add_zero]
        at h1 h2
      omega
    · by_cases hl : phs[i]? = some .lookup
      · rw [run, step_before_lookup hl hi, Option.some_bind] at h
        simp only [firstLookups, hi, if_false]
        exact ih (List.nodup_append.mpr ⟨hs, List.nodup_singleton _, by simpa using hi⟩)
          (by simpa [or_imp, forall_and] using And.intro hk hl) h
      · rw [run, step_before_none hc hl hi] at h
        cases h

end Before

/-- **The race in the abstract.**  After any schedule of a race whose calls start at their
    lookup or done, the volumes of the name and the creates still to come add up to the lookups
    before the first create. -/
theorem count_add_of_run_start {phs : List Phase} {sched : List Nat} {r : Race}
    (hc : .create ∉ phs) (h : (start phs).run sched = some r) :
    r.count + r.phases.countP (· = .create) = (firstLookups [] sched).length :=
  run_before hc List.nodup_nil (by simp) (before_nil phs ▸ h)

end Race

/-! ## The threads refine the race -/

section Forall₂

variable {α β : Type} {R : α → β → Prop}

/-- An entry of the right list has a related entry at the same index of the left one. -/
theorem forall₂_getElem?_right {l₁ : List α} {l₂ : List β} (h : List.Forall₂ R l₁ l₂) {i : Nat}
    {b : β} (hb : l₂[i]? = some b) : ∃ a, l₁[i]? = some a ∧ R a b := by
  induction h generalizing i with
  | nil => simp at hb
  | cons hab _ ih =>
    cases i with
    | zero =>
      simp only [List.getElem?_cons_zero, Option.some.injEq] at hb ⊢
      exact hb ▸ ⟨_, rfl, hab⟩
    | succ i =>
      simp only [List.getElem?_cons_succ] at hb ⊢
      exact ih hb

/-- Related values set at one index keep two lists related. -/
theorem forall₂_set {l₁ : List α} {l₂ : List β} (h : List.Forall₂ R l₁ l₂) {a : α} {b : β}
    (hab : R a b) (i : Nat) : List.Forall₂ R (l₁.set i a) (l₂.set i b) := by
  induction h generalizing i with
  | nil => exact .nil
  | cons hxy hl ih =>
    cases i with
    | zero => exact .cons hab hl
    | succ i => exact .cons hxy (ih i)

end Forall₂

section Simulation

variable {α : Type} (name : String)

/-- A program that creates a volume of the name and then answers. -/
def CreatesThenAnswers (p : Client α) : Prop :=
  ∃ vr k', vr.name = name ∧ p = .call (.create vr) k' ∧ ∀ vol, ∃ x, k' (.ok vol) = .pure x

/-- The program a call of the race has left in each phase: the lookup of the name (not `""`),
    going on to a create when it finds nothing and to an answer when it finds a volume; the
    create; or an answer.  Each call has its own continuation, so the calls may carry different
    requests of the name. -/
def Phase.Holds : Phase → Client α → Prop
  | .lookup, p => name ≠ "" ∧ ∃ kk, p = .call (.list (some name)) kk ∧
      CreatesThenAnswers name (kk (.ok [])) ∧ ∀ vol vols, ∃ x, kk (.ok (vol :: vols)) = .pure x
  | .create, p => CreatesThenAnswers name p
  | .done, p => ∃ x, p = .pure x

/-- The threads `t` are where the race `r` says: each thread runs the program of its call's
    phase, the store holds `r.count` volumes of the name, none of them under a UUID still to be
    drawn, and the UUIDs to be drawn are distinct. -/
structure Simulates (t : Threads (Cloud × List String) α) (r : Race) : Prop where
  holds : List.Forall₂ (Phase.Holds name) r.phases t.threads
  count_eq : (t.state.1.volumes.filter (·.name = name)).length = r.count
  fresh : ∀ v ∈ t.state.1.volumes.filter (·.name = name), v.uuid ∉ t.state.2
  nodup : t.state.2.Nodup

variable {name}

/-- Calls that have not started, on a store without the name. -/
theorem simulates_start {s : Cloud} {ids : List String} {phs : List Phase} {ps : List (Client α)}
    (hholds : List.Forall₂ (Phase.Holds name) phs ps)
    (hs : s.volumes.filter (·.name = name) = []) (hids : ids.Nodup) :
    Simulates name ⟨(s, ids), ps⟩ (Race.start phs) where
  holds := hholds
  count_eq := by simp [hs, Race.start]
  fresh := by simp [hs]
  nodup := hids

/-- A finished thread belongs to a finished call: the programs of a lookup and of a create
    still make a call. -/
theorem Phase.eq_done_of_holds {ph : Phase} {x : α} (h : Phase.Holds name ph (.pure x)) :
    ph = .done := by
  cases ph with
  | lookup => obtain ⟨-, kk, ⟨⟩, -⟩ := h
  | create => obtain ⟨vr, k', -, ⟨⟩, -⟩ := h
  | done => rfl

theorem Phase.all_done {phs : List Phase} {ps : List (Client α)}
    (h : List.Forall₂ (Phase.Holds name) phs ps) (hdone : ∀ p ∈ ps, ∃ x, p = .pure x) :
    ∀ ph ∈ phs, ph = .done := by
  induction h with
  | nil => simp
  | cons hh _ ih =>
    simp only [List.mem_cons, forall_eq_or_imp] at hdone ⊢
    obtain ⟨⟨x, rfl⟩, hdone⟩ := hdone
    exact ⟨Phase.eq_done_of_holds hh, ih hdone⟩

/-- After a lookup that finds `vols`, a call creates if they are none and is done otherwise. -/
theorem holds_after_lookup {kk : Except Cloudscale.Error (List Cloudscale.Volume) → Client α}
    (hcreate : CreatesThenAnswers name (kk (.ok [])))
    (hfound : ∀ vol vols, ∃ x, kk (.ok (vol :: vols)) = .pure x) (vols : List Cloudscale.Volume) :
    Phase.Holds name (if vols.length = 0 then .create else .done) (kk (.ok vols)) := by
  cases vols with
  | nil => exact hcreate
  | cons vol vols => exact hfound vol vols

/-- A create under a UUID not in use by a volume of the name adds one volume of the name. -/
theorem filter_put_created {s : Cloud} {newId : String} {vr : VolumeRequest} (hvr : vr.name = name)
    (hfresh : ∀ v ∈ s.volumes.filter (·.name = name), v.uuid ≠ newId) :
    (s.put (createdVolume newId vr)).volumes.filter (·.name = name) =
      s.volumes.filter (·.name = name) ++ [createdVolume newId vr] := by
  rw [Cloud.filter_put, List.filter_eq_self.mpr (by simpa using hfresh)]
  simp [createdVolume, hvr]

/-- **One step of the threads is one step of the race.** -/
theorem Simulates.step {t t' : Threads (Cloud × List String) α} {r : Race} {i : Nat}
    (hs : Simulates name t r) (h : t.step (fakeDrawing m) i = some t') :
    ∃ r', r.step i = some r' ∧ Simulates name t' r' := by
  obtain ⟨c, k, res, st', hi, hc, rfl⟩ := Threads.step_eq_some _ h
  obtain ⟨ph, hph, hholds⟩ := forall₂_getElem?_right hs.holds hi
  obtain ⟨⟨s, ids⟩, threads⟩ := t
  cases ph with
  | lookup =>
    -- the lookup answers with the volumes of the name and changes nothing
    obtain ⟨hname, kk, hp, hcreate, hfound⟩ := hholds
    cases hp
    rw [fakeDrawing_list m hname] at hc
    cases hc
    refine ⟨⟨r.phases.set i (if r.count = 0 then .create else .done), r.count⟩,
      by simp only [Race.step, hph], ?_, hs.count_eq, hs.fresh, hs.nodup⟩
    rw [← hs.count_eq]
    exact forall₂_set hs.holds (holds_after_lookup hcreate hfound _) i
  | create =>
    -- the create draws a fresh UUID and stores one more volume of the name
    obtain ⟨vr, k', hvr, hp, hcreated⟩ := hholds
    cases hp
    cases ids with
    | nil => cases hc
    | cons newId ids =>
      rw [fakeDrawing_create] at hc
      cases hc
      have hnodup := List.nodup_cons.mp hs.nodup
      have hfresh : ∀ v ∈ s.volumes.filter (·.name = name), v.uuid ∉ newId :: ids := hs.fresh
      have hput := filter_put_created hvr fun v hv he => hfresh v hv (he ▸ List.mem_cons_self _ _)
      refine ⟨⟨r.phases.set i .done, r.count + 1⟩, by simp only [Race.step, hph],
        forall₂_set hs.holds (show Phase.Holds name .done _ from hcreated _) i, ?_, ?_, hnodup.2⟩
      · simp only [hput, List.length_append, List.length_singleton, hs.count_eq]
      · simp only [hput, List.mem_append, List.mem_singleton]
        rintro v (hv | rfl)
        · exact fun hm => hfresh v hv (List.mem_cons_of_mem _ hm)
        · exact hnodup.1
  | done => obtain ⟨x, ⟨⟩⟩ := hholds

/-- **A run of the threads is a run of the race.** -/
theorem Simulates.run {t t' : Threads (Cloud × List String) α} {r : Race} {sched : List Nat}
    (hs : Simulates name t r) (h : t.run (fakeDrawing m) sched = some t') :
    ∃ r', r.run sched = some r' ∧ Simulates name t' r' := by
  induction sched generalizing t r with
  | nil => cases h; exact ⟨r, rfl, hs⟩
  | cons i is ih =>
    obtain ⟨t1, h1, h⟩ := Option.bind_eq_some.mp h
    obtain ⟨r1, hr1, hs1⟩ := hs.step m h1
    obtain ⟨r', hr', hs'⟩ := ih hs1 h
    exact ⟨r', by simp only [Race.run, hr1, Option.some_bind, hr'], hs'⟩

end Simulation

/-! ## Concurrent creates -/

/-- The program of a `CreateVolume` whose checks pass: it looks the name up; on no match it
    creates the volume and answers; on one or more matches it answers without a create. -/
theorem createVolume_run_shape {req : CreateVolumeRequest} {n : Int64} {st luks : String}
    (hc : createVolumeChecks K d req = .ok (n, st, luks)) :
    ∃ kk, (createVolume K d req).run = .call (.list (some req.name)) kk ∧
      (∃ k', kk (.ok []) = .call (.create ⟨req.name, n, st, d.zone, none⟩) k' ∧
        ∀ vol, ∃ x, k' (.ok vol) = .pure x) ∧
      ∀ vol vols, ∃ x, kk (.ok (vol :: vols)) = .pure x := by
  simp only [createVolume, hc, ExceptT.run_bind, Rpc.send, ExceptT.run_lift, Client.send,
    map_eq_pure_bind, Client.bind_eq, Client.call_bind, Client.pure_bind, Client.pure_eq,
    ExceptT.run_pure]
  refine ⟨_, rfl, ⟨_, rfl, fun vol => ⟨_, rfl⟩⟩, fun vol vols => ?_⟩
  cases vols with
  | nil => by_cases hv : vol.sizeGB = n <;> simp [hv]
  | cons => exact ⟨_, rfl⟩

/-- Where a `CreateVolume` call starts: at its lookup if its checks pass, done otherwise. -/
def createPhase (req : CreateVolumeRequest) : Phase :=
  match createVolumeChecks K d req with
  | .ok _ => .lookup
  | .error _ => .done

/-- A `CreateVolume` call runs the program of the phase it starts in: one that fails its checks
    has answered, one that passes them looks its name up. -/
theorem createVolume_run_holds (req : CreateVolumeRequest) :
    Phase.Holds req.name (createPhase K d req) (createVolume K d req).run := by
  unfold createPhase
  rcases hc : createVolumeChecks K d req with e | ⟨n, st, luks⟩
  · refine ⟨.error e, ?_⟩
    simp only [createVolume, hc, ExceptT.run_bind, ExceptT.run_throw, Client.pure_bind]
    rfl
  · obtain ⟨kk, hP, ⟨k', hcreate, hcreated⟩, hfound⟩ := createVolume_run_shape K d hc
    exact ⟨name_ne_of_createVolumeChecks K d hc, kk, hP, ⟨_, k', rfl, hcreate, hcreated⟩, hfound⟩

/-- `CreateVolume` calls of the requests `reqs` in flight on the store `s`, with the UUIDs `ids`
    to draw. -/
def createRace (reqs : List CreateVolumeRequest) (s : Cloud) (ids : List String) :
    Threads (Cloud × List String) (Except Csi.Error CreateVolumeResponse) :=
  ⟨(s, ids), reqs.map fun req => (createVolume K d req).run⟩

/-- **Concurrent creates of one name.**  Run any number of `CreateVolume` calls of requests that
    all name one volume, whatever their sizes, types and other fields, from a store with no
    volume of the name and with distinct UUIDs to draw, under any interleaving of their backend
    calls: the store never holds more volumes of the name than there are calls whose lookup
    comes before the first create, and once every call has finished it holds exactly that
    many. -/
theorem concurrent_creates {reqs : List CreateVolumeRequest} {name : String} {s : Cloud}
    {ids : List String} {sched : List Nat}
    {t : Threads (Cloud × List String) (Except Csi.Error CreateVolumeResponse)}
    (hname : ∀ req ∈ reqs, req.name = name)
    (hs : s.volumes.filter (·.name = name) = []) (hids : ids.Nodup)
    (hrun : (createRace K d reqs s ids).run (fakeDrawing m) sched = some t) :
    (t.state.1.volumes.filter (·.name = name)).length ≤ (firstLookups [] sched).length ∧
      ((∀ p ∈ t.threads, ∃ x, p = .pure x) →
        (t.state.1.volumes.filter (·.name = name)).length = (firstLookups [] sched).length) := by
  have hholds : List.Forall₂ (Phase.Holds name) (reqs.map (createPhase K d))
      (reqs.map fun req => (createVolume K d req).run) := by
    rw [List.forall₂_map_left_iff, List.forall₂_map_right_iff, List.forall₂_same]
    exact fun req hr => hname req hr ▸ createVolume_run_holds K d req
  have hcreate : .create ∉ reqs.map (createPhase K d) := fun h => by
    obtain ⟨req, -, he⟩ := List.mem_map.mp h
    unfold createPhase at he
    split at he <;> cases he
  obtain ⟨r, hr, hsim⟩ := (simulates_start hholds hs hids).run m hrun
  have hcount := Race.count_add_of_run_start hcreate hr
  rw [hsim.count_eq]
  refine ⟨by omega, fun hdone => ?_⟩
  have hnone : r.phases.countP (· = .create) = 0 :=
    List.countP_eq_zero.mpr fun ph hph => by simp [Phase.all_done hsim.holds hdone ph hph]
  omega

/-- A request for the volume `pvc-1` of `10` GB. -/
def pvcRequest10 : CreateVolumeRequest := { pvcRequest with capacityRange := some ⟨10737418240, 0⟩ }

theorem concurrent_creates_pvc :
    (∀ req ∈ [pvcRequest, pvcRequest10], req.name = "pvc-1") ∧
    Cloud.empty.volumes.filter (·.name = "pvc-1") = [] ∧ ["vol-1", "vol-2"].Nodup ∧
    ∃ t, (createRace exampleNames exampleDriver [pvcRequest, pvcRequest10] Cloud.empty
        ["vol-1", "vol-2"]).run (fakeDrawing 128) [0, 1, 0, 1] = some t ∧
      t.threads = [.pure (.ok ⟨{ csiVolumeOf exampleNames exampleDriver "pvc-1" 5 "false" [] with
        volumeId := "vol-1" }⟩), .pure (.ok ⟨{ csiVolumeOf exampleNames exampleDriver "pvc-1" 10
        "false" [] with volumeId := "vol-2" }⟩)] ∧
      (t.state.1.volumes.filter (·.name = "pvc-1")).length ≤
        (firstLookups [] [0, 1, 0, 1]).length ∧
      ((∀ p ∈ t.threads, ∃ x, p = .pure x) →
        (t.state.1.volumes.filter (·.name = "pvc-1")).length =
          (firstLookups [] [0, 1, 0, 1]).length) :=
  have hname : ∀ req ∈ [pvcRequest, pvcRequest10], req.name = "pvc-1" := by decide
  ⟨hname, rfl, by decide, _, rfl, rfl, @concurrent_creates exampleNames exampleDriver 128
    [pvcRequest, pvcRequest10] "pvc-1" Cloud.empty ["vol-1", "vol-2"] [0, 1, 0, 1] _ hname rfl
    (by decide) rfl⟩

/-- **Two creates of `pvc-1` store two volumes `pvc-1`.**  On the empty fake, both lookups
    find nothing, and both creates store a volume. -/
theorem concurrent_creates_duplicate_pvc :
    ((createRace exampleNames exampleDriver [pvcRequest, pvcRequest] Cloud.empty
      ["vol-1", "vol-2"]).run (fakeDrawing 128) [0, 1, 0, 1]).map (fun t => t.state.1.volumes) =
      some [⟨"vol-1", "pvc-1", 5, "ssd", []⟩, ⟨"vol-2", "pvc-1", 5, "ssd", []⟩] :=
  rfl

end CsiCloudscale

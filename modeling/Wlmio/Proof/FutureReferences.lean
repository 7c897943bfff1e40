import Mathlib.Data.List.Perm.Basic
import Wlmio.Library.Fallible
import Wlmio.Pywlmio.Extension

/-!
# Who owns a future

The native module should own one reference to a future for each pending request that will release
it. Two of the functions count their references as they should. `register_access` counts one of the
two it needs, `get_node_info` returns the future even if it fails, and a request that is accepted
without a task is never released. Without those steps the books stay in order
(`futures_balanced_iff`).
-/

namespace Wlmio.Proof

open Wlmio.Client Wlmio.Pywlmio Wlmio.Pywlmio.Native References

/-! ## The books -/

/-- `NULL` with an exception, or a future without one. -/
def Proper : Returned → Prop
  | .null exception => exception = true
  | .future _ exception => exception = false

/-- The futures that pending requests will release. -/
def released (pending : List Pending) : List PyObject := pending.map (fun p => .future p.future)

structure Balanced (e : Extension) : Prop where
  /-- One reference is owned for each request. -/
  futures : ∀ n, e.counts.Covers (.future n) (released e.pending)
  untaken : 0 ≤ e.counts.held .none
  calls : ∀ returned ∈ e.returned, Proper returned
  running : e.crash = none

/-- The books are in order after a step that has taken no reference to `None` from anybody. -/
structure Keeps (e e' : Extension) : Prop where
  balanced : Balanced e'
  untaken : e.counts.held .none ≤ e'.counts.held .none

/-- What a call has to be like. -/
def CallMeets (fn : Function) (args : Option Nat) (malloc : Bool) (answer : Answer) : Prop :=
  match fn with
  | .getNodeInfo => args.isSome ∧ malloc = true ∧ answer = .accepted true
  | .registerAccess => args.isSome → malloc = true ∧ answer ≠ .accepted true
  | .registerList => args.isSome → malloc = true ∧ answer ≠ .accepted false
  | .executeCommand => args.isSome → answer ≠ .accepted false

/-- What a step has to be like. The name that a listed register has must be UTF-8. -/
def Meets (e : Extension) : Label → Prop
  | .call fn args malloc answer => CallMeets fn args malloc answer
  | .complete i r name => ∀ p ∈ e.pending[i]?, p.function = .registerList → 0 ≤ r →
      decodeUtf8 (cString name) ≠ none
  | _ => True

instance (fn : Function) (args : Option Nat) (malloc : Bool) (answer : Answer) :
    Decidable (CallMeets fn args malloc answer) :=
  match fn with
  | .getNodeInfo => inferInstanceAs (Decidable (_ ∧ _ ∧ _))
  | .registerAccess => inferInstanceAs (Decidable (_ → _ ∧ _))
  | .registerList => inferInstanceAs (Decidable (_ → _ ∧ _))
  | .executeCommand => inferInstanceAs (Decidable (_ → _))

instance (e : Extension) (l : Label) : Decidable (Meets e l) :=
  match l with
  | .call fn args malloc answer => inferInstanceAs (Decidable (CallMeets fn args malloc answer))
  | .complete i _ _ => inferInstanceAs (Decidable (∀ p ∈ e.pending[i]?, _ → _ → _))
  | .create | .take _ | .drop _ => isTrue trivial

/-! ## Calls -/

theorem not_keeps_crash {e : Extension} {crash : Crash} : ¬ Keeps e (e.settle (.error crash)) :=
  fun h => nomatch h.balanced.running

/-- **What a call does to the books** is in order if what it returns is, and if it has counted as
many references as there are new requests. -/
theorem outcome_keeps_iff {e : Extension} (hb : Balanced e) {counts : Counts PyObject}
    {new : List Pending} {returned : Returned} (future : Nat) {d : Int}
    (hheld : ∀ o, counts.held o = e.counts.held o + if o = .future future then d else 0)
    (hnew : ∀ p ∈ new, p.future = future) :
    Keeps e { e with
        counts := counts
        pending := e.pending ++ new
        returned := returned :: e.returned } ↔ Proper returned ∧ d = new.length := by
  have hcount : ∀ n, ((released (e.pending ++ new)).count (.future n) : Int) =
      e.counts.held (.future n) + if n = future then new.length else 0 := by
    intro n
    have hreleased : released new = List.replicate new.length (.future future) := by
      refine List.eq_replicate_iff.mpr ⟨List.length_map _, fun o ho => ?_⟩
      obtain ⟨p, hp, rfl⟩ := List.mem_map.mp ho
      rw [hnew p hp]
    have hmap : released (e.pending ++ new) = released e.pending ++ released new := List.map_append
    rw [hmap, List.count_append, hreleased, List.count_replicate, hb.futures n]
    by_cases heq : n = future
    · simp [heq]
    · simp [heq, Ne.symm heq]
  have hcovers : ∀ n, counts.Covers (.future n) (released (e.pending ++ new)) ↔
      (n = future → d = new.length) := by
    intro n
    unfold Counts.Covers
    rw [hcount, hheld]
    by_cases heq : n = future
    · simp [heq]
    · simp [heq]
  constructor
  · intro h
    exact ⟨h.balanced.calls _ List.mem_cons_self, (hcovers future).mp (h.balanced.futures future) rfl⟩
  · rintro ⟨hproper, hd⟩
    have hnone : counts.held .none = e.counts.held .none := by
      rw [hheld, if_neg (fun h => nomatch h), Int.add_zero]
    exact ⟨⟨fun n => (hcovers n).mpr (fun _ => hd), hnone.symm ▸ hb.untaken,
      List.forall_mem_cons.mpr ⟨hproper, hb.calls⟩, hb.running⟩, Int.le_of_eq hnone.symm⟩

theorem held_counted (c : Counts PyObject) (future : Nat) (counted : Bool) (o : PyObject) :
    ((if counted then (c.incref (.future future)).incref (.future future)
      else c.incref (.future future)).give (.future future)).held o =
      c.held o + if o = .future future then (if counted then 1 else 0) else 0 := by
  rw [Counts.held_give]
  cases counted with
  | false =>
      rw [if_neg Bool.false_ne_true, if_neg Bool.false_ne_true, Counts.held_incref, ite_self]
      omega
  | true =>
      rw [if_pos rfl, if_pos rfl, Counts.held_incref, Counts.held_incref]
      omega

theorem held_given (c : Counts PyObject) (future : Nat) (o : PyObject) :
    (c.give (.future future)).held o = c.held o + if o = .future future then -1 else 0 := by
  rw [Counts.held_give]
  split
  · rfl
  · omega

theorem newPending_future {fn : Function} {future : Nat} {answer : Answer} :
    ∀ p ∈ newPending fn (some future) answer, p.future = future := by
  intro p hp
  cases answer with
  | refused => exact absurd hp List.not_mem_nil
  | accepted task =>
      cases task with
      | false => exact absurd hp List.not_mem_nil
      | true => rw [List.mem_singleton.mp hp]

theorem length_newPending {fn : Function} {future : Nat} {task : Bool} :
    (newPending fn (some future) (.accepted task)).length = if task then 1 else 0 := by
  cases task with
  | false => rfl
  | true => rfl

/-- A call that fails as it should changes nothing. -/
theorem null_keeps {e : Extension} (hb : Balanced e) :
    Keeps e { e with pending := e.pending ++ [], returned := .null true :: e.returned } := by
  refine (outcome_keeps_iff hb 0 (d := 0) (fun o => ?_) (fun p hp => ?_)).mpr ⟨rfl, rfl⟩
  · rw [ite_self]
    omega
  · exact absurd hp List.not_mem_nil

variable {e e' : Extension}

theorem getNodeInfo_keeps_iff (hb : Balanced e) (args : Option Nat) (malloc : Bool)
    (answer : Answer) :
    Keeps e (e.settle (e.call .getNodeInfo args malloc answer)) ↔
      CallMeets .getNodeInfo args malloc answer := by
  cases args with
  | none => exact iff_of_false not_keeps_crash (fun h => nomatch h.1)
  | some future =>
      cases malloc with
      | false => exact iff_of_false not_keeps_crash (fun h => nomatch h.2.1)
      | true =>
          cases answer with
          | refused =>
              refine iff_of_false (fun h => ?_) (fun h => nomatch h.2.2)
              have hheld := held_given e.counts future
              exact nomatch ((outcome_keeps_iff hb future hheld newPending_future).mp h).1
          | accepted task =>
              have hheld := held_counted e.counts future true
              refine (outcome_keeps_iff hb future hheld newPending_future).trans ?_
              rw [length_newPending]
              cases task with
              | false => exact iff_of_false (fun h => nomatch h.2) (fun h => nomatch h.2.2)
              | true => exact iff_of_true ⟨rfl, rfl⟩ ⟨rfl, rfl, rfl⟩

/-- The other three are in order if a reference is counted for the callback exactly when there will
be one. -/
theorem request_keeps_iff (hb : Balanced e) {fn : Function} {allocates counted : Bool}
    (hfn : fn.call = request allocates counted) (args : Option Nat) (malloc : Bool)
    (answer : Answer) :
    Keeps e (e.settle (e.call fn args malloc answer)) ↔
      (args.isSome → (allocates = true → malloc = true) ∧ answer ≠ .accepted (!counted)) := by
  unfold Extension.call
  rw [hfn]
  cases args with
  | none => exact iff_of_true (null_keeps hb) (fun h => nomatch h)
  | some future =>
      unfold request
      dsimp only
      split
      · rename_i hmalloc
        obtain ⟨hallocates, hnone⟩ := Bool.and_eq_true_iff.mp hmalloc
        refine iff_of_false not_keeps_crash ?_
        intro h
        rw [(h rfl).1 hallocates] at hnone
        cases hnone
      · rename_i hmalloc
        have hok : allocates = true → malloc = true := by
          simpa using hmalloc
        cases answer with
        | refused => exact iff_of_true (null_keeps hb) (fun _ => ⟨hok, fun h => nomatch h⟩)
        | accepted task =>
            have hheld := held_counted e.counts future counted
            refine (outcome_keeps_iff hb future hheld newPending_future).trans ?_
            rw [length_newPending]
            cases counted with
            | false =>
                cases task with
                | false => exact iff_of_true ⟨rfl, rfl⟩ (fun _ => ⟨hok, fun h => nomatch h⟩)
                | true => exact iff_of_false (fun h => nomatch h.2) (fun h => (h rfl).2 rfl)
            | true =>
                cases task with
                | false => exact iff_of_false (fun h => nomatch h.2) (fun h => (h rfl).2 rfl)
                | true => exact iff_of_true ⟨rfl, rfl⟩ (fun _ => ⟨hok, fun h => nomatch h⟩)

theorem call_keeps_iff (hb : Balanced e) (fn : Function) (args : Option Nat) (malloc : Bool)
    (answer : Answer) :
    Keeps e (e.settle (e.call fn args malloc answer)) ↔ CallMeets fn args malloc answer := by
  cases fn with
  | getNodeInfo => exact getNodeInfo_keeps_iff hb args malloc answer
  | registerAccess =>
      refine (request_keeps_iff hb rfl args malloc answer).trans ?_
      exact ⟨fun h hargs => ⟨(h hargs).1 rfl, (h hargs).2⟩,
        fun h hargs => ⟨fun _ => (h hargs).1, (h hargs).2⟩⟩
  | registerList =>
      refine (request_keeps_iff hb rfl args malloc answer).trans ?_
      exact ⟨fun h hargs => ⟨(h hargs).1 rfl, (h hargs).2⟩,
        fun h hargs => ⟨fun _ => (h hargs).1, (h hargs).2⟩⟩
  | executeCommand =>
      refine (request_keeps_iff hb rfl args malloc answer).trans ?_
      exact ⟨fun h hargs => (h hargs).2, fun h hargs => ⟨(fun hne => nomatch hne), h hargs⟩⟩

/-! ## Completions -/

theorem callSoon_ok {c : Counts PyObject} {future : Nat} (h : 0 < c.count (.future future))
    (result : Option PyObject) :
    ∃ c', callSoon c future result = .ok c' ∧ ∀ o, c'.held o = c.held o := by
  unfold callSoon
  rw [if_neg (by omega)]
  cases result with
  | none => exact ⟨_, rfl, fun o => Counts.held_take ..⟩
  | some r => exact ⟨_, rfl, fun o => by rw [Counts.held_take, Counts.held_take]⟩

/-- A callback has released the future, and has taken no reference to `None`. -/
structure Releases (c : Counts PyObject) (future : Nat) (c' : Counts PyObject) : Prop where
  futures : ∀ n, c'.held (.future n) = (c.decref (.future future)).held (.future n)
  untaken : c.held .none ≤ c'.held .none

theorem count_incref_none (c : Counts PyObject) (n : Nat) :
    (c.incref .none).count (.future n) = c.count (.future n) :=
  Counts.count_incref_of_ne (fun h => nomatch h)

/-- What is left of a callback when it has made its result. -/
theorem callSoon_releases {c c₁ : Counts PyObject} {future : Nat}
    (hlive : 0 < c.count (.future future))
    (hcount : c₁.count (.future future) = c.count (.future future))
    (hfutures : ∀ n, c₁.held (.future n) = c.held (.future n))
    (hnone : c.held .none ≤ c₁.held .none) (result : Option PyObject) :
    ∃ c₂, callSoon c₁ future result = .ok c₂ ∧ Releases c future (c₂.decref (.future future)) := by
  obtain ⟨c₂, hrun, hheld⟩ := callSoon_ok (hcount ▸ hlive) result
  refine ⟨c₂, hrun, ⟨?_, ?_⟩⟩
  · intro n
    rw [Counts.held_decref, hheld, hfutures, Counts.held_decref]
  · rw [Counts.held_decref, hheld, if_neg (fun h => nomatch h)]
    omega

/-- The reference to `None` that is counted for the tuple is one too many. -/
theorem none_counted (c : Counts PyObject) (r : Int) :
    let c₁ := if r < 0 then (c.incref .none).take .none else c
    (∀ n, c₁.count (.future n) = c.count (.future n)) ∧
      (∀ n, c₁.held (.future n) = c.held (.future n)) ∧ c.held .none ≤ c₁.held .none := by
  dsimp only
  split
  · refine ⟨?_, ?_, ?_⟩
    · intro n
      exact (count_incref_none _ n).trans (count_incref_none c n)
    · intro n
      rw [Counts.held_take, Counts.held_incref, if_neg (fun h => nomatch h), Int.add_zero]
    · rw [Counts.held_take, Counts.held_incref, if_pos rfl]
      omega
  · exact ⟨fun _ => rfl, fun _ => rfl, Int.le_refl _⟩

theorem getNodeInfoCallback_releases {c : Counts PyObject} {future : Nat}
    (hlive : 0 < c.count (.future future)) (r : Int) :
    ∃ c', Native.getNodeInfoCallback c future r = .ok c' ∧ Releases c future c' := by
  obtain ⟨hcount, hfutures, hnone⟩ := none_counted c r
  obtain ⟨c₂, hrun, hreleases⟩ := callSoon_releases hlive (hcount future) hfutures hnone none
  unfold Native.getNodeInfoCallback
  dsimp only
  rw [hrun]
  exact ⟨_, rfl, hreleases⟩

/-- A name that is not UTF-8 ends the process. -/
theorem registerListCallback_cases {c : Counts PyObject} {future : Nat}
    (hlive : 0 < c.count (.future future)) (r : Int) (name : List Byte) :
    (0 ≤ r ∧ decodeUtf8 (cString name) = none ∧
      Native.registerListCallback c future r name = .error (.fault .nullDereference)) ∨
      ((0 ≤ r → decodeUtf8 (cString name) ≠ none) ∧
        ∃ c', Native.registerListCallback c future r name = .ok c' ∧ Releases c future c') := by
  obtain ⟨hcount, hfutures, hnone⟩ := none_counted c r
  obtain ⟨c₂, hrun, hreleases⟩ := callSoon_releases hlive (hcount future) hfutures hnone none
  unfold Native.registerListCallback Pywlmio.registerListCallback
  dsimp only
  rw [hrun, Fallible.ok_bind]
  by_cases hr : r < 0
  · rw [if_pos hr]
    exact .inr ⟨fun h => absurd hr (by omega), _, rfl, hreleases⟩
  · rw [if_neg hr]
    cases hname : decodeUtf8 (cString name) with
    | none => exact .inl ⟨by omega, rfl, rfl⟩
    | some value => exact .inr ⟨(fun _ h => nomatch h), _, rfl, hreleases⟩

theorem executeCommandCallback_releases {c : Counts PyObject} {future : Nat}
    (hlive : 0 < c.count (.future future)) (r : Int) :
    ∃ c', executeCommandCallback c future r = .ok c' ∧ Releases c future c' := by
  unfold executeCommandCallback
  split
  · obtain ⟨c₂, hrun, hheld⟩ := callSoon_ok (c := c.incref .none)
      ((count_incref_none c future).symm ▸ hlive) (some .none)
    rw [hrun]
    -- the reference that was counted is dropped again
    refine ⟨_, rfl, ⟨?_, ?_⟩⟩
    · intro n
      simp [hheld]
    · simp [hheld]
  · obtain ⟨c₂, hrun, hreleases⟩ := callSoon_releases hlive rfl (fun _ => rfl) (Int.le_refl _) none
    rw [hrun]
    exact ⟨_, rfl, hreleases⟩

/-- A request that has been completed is one owner less. -/
theorem completed_keeps (hb : Balanced e) {i : Nat} {p : Pending} (hi : e.pending[i]? = some p)
    {c : Counts PyObject} (h : Releases e.counts p.future c) :
    Keeps e { e with counts := c, pending := e.pending.eraseIdx i } := by
  have hperm : (released e.pending).Perm (.future p.future :: released (e.pending.eraseIdx i)) := by
    obtain ⟨hlt, rfl⟩ := List.getElem?_eq_some_iff.mp hi
    exact ((List.getElem_cons_eraseIdx_perm hlt).map _).symm
  refine ⟨⟨fun n => ?_, Int.le_trans hb.untaken h.untaken, hb.calls, hb.running⟩, h.untaken⟩
  have hcovers := (hb.futures n).decref hperm
  unfold Counts.Covers at hcovers ⊢
  rw [h.futures, hcovers]

theorem complete_keeps_iff (hb : Balanced e) {i : Nat} {p : Pending} (hi : e.pending[i]? = some p)
    (hp : p.function ≠ .registerAccess) (r : Int) (name : List Byte) :
    Keeps e (e.settle (e.complete i p r name)) ↔
      (p.function = .registerList → 0 ≤ r → decodeUtf8 (cString name) ≠ none) := by
  have howner : PyObject.future p.future ∈ released e.pending :=
    List.mem_map.mpr ⟨p, List.mem_of_getElem? hi, rfl⟩
  have hlive := (hb.futures p.future).alive (.inl howner)
  unfold Extension.complete Function.callback
  cases hfn : p.function with
  | getNodeInfo =>
      obtain ⟨c, hrun, hreleases⟩ := getNodeInfoCallback_releases hlive r
      dsimp only
      rw [hrun]
      exact iff_of_true (completed_keeps hb hi hreleases) (fun h => nomatch h)
  | registerAccess => exact absurd hfn hp
  | registerList =>
      dsimp only
      rcases registerListCallback_cases hlive r name with
        ⟨hr, hname, hrun⟩ | ⟨hname, c, hrun, hreleases⟩
      · rw [hrun]
        exact iff_of_false not_keeps_crash (fun h => h rfl hr hname)
      · rw [hrun]
        exact iff_of_true (completed_keeps hb hi hreleases) (fun _ => hname)
  | executeCommand =>
      obtain ⟨c, hrun, hreleases⟩ := executeCommandCallback_releases hlive r
      dsimp only
      rw [hrun]
      exact iff_of_true (completed_keeps hb hi hreleases) (fun h => nomatch h)

/-! ## The rest of the process -/

/-- What others do with their own references is no concern of the module. -/
theorem others_keep (hb : Balanced e) {c : Counts PyObject} {created : Nat}
    (h : ∀ o, c.held o = e.counts.held o) :
    Keeps e { e with counts := c, created := created } := by
  refine ⟨⟨fun n => ?_, (h .none).symm ▸ hb.untaken, hb.calls, hb.running⟩,
    Int.le_of_eq (h .none).symm⟩
  unfold Counts.Covers
  rw [h]
  exact hb.futures n

/-- Whoever has a reference can use it. -/
theorem Balanced.alive (hb : Balanced e) {o : PyObject} (ho : 0 < e.counts.others o) :
    0 < e.counts.count o := by
  cases o with
  | none =>
      have := hb.untaken
      unfold Counts.held at this
      omega
  | future n => exact (hb.futures n).alive (.inr ho)

theorem use_keeps (hb : Balanced e) {o : PyObject} {c : Counts PyObject}
    {x : Except Crash Extension} (h : 0 < e.counts.others o → ∀ o', c.held o' = e.counts.held o') (hx : e.use o c = some x) :
    Keeps e (e.settle x) := by
  unfold Extension.use at hx
  split at hx
  · cases hx
  · rename_i hothers
    have hothers := Nat.pos_of_ne_zero hothers
    rw [if_neg (Int.not_le.mpr (hb.alive hothers))] at hx
    obtain rfl := Option.some.inj hx
    exact others_keep hb (h hothers)

/-! ## Runs -/

/-- **A step keeps the books in order exactly when it is as it has to be.** -/
theorem step_keeps_iff (hb : Balanced e) (hp : ∀ p ∈ e.pending, p.function ≠ .registerAccess)
    {l : Label} (h : e.step l = some e') : Keeps e e' ↔ Meets e l := by
  unfold Extension.step at h
  rw [hb.running] at h
  obtain ⟨x, hx, rfl⟩ := Option.map_eq_some_iff.mp h
  cases l with
  | create =>
      obtain rfl := Option.some.inj hx
      exact iff_of_true (others_keep hb (Counts.held_take e.counts _)) trivial
  | take o =>
      exact iff_of_true (use_keeps hb (fun _ => Counts.held_take e.counts o) hx) trivial
  | drop o =>
      exact iff_of_true (use_keeps hb (fun h o' => Counts.held_drop e.counts o o' h) hx) trivial
  | call fn args malloc answer =>
      unfold Extension.act at hx
      dsimp only at hx
      split at hx
      · cases hx
      · rename_i hothers
        split at hx
        · rename_i hfreed
          obtain ⟨future, hargs, hcount⟩ := hfreed
          refine absurd (hb.alive (Nat.pos_of_ne_zero fun h => hothers ⟨future, hargs, h⟩)) ?_
          exact Int.not_lt.mpr hcount
        · obtain rfl := Option.some.inj hx
          exact call_keeps_iff hb fn args malloc answer
  | complete i r name =>
      obtain ⟨p, hi, rfl⟩ := Option.map_eq_some_iff.mp hx
      refine (complete_keeps_iff hb hi (hp p (List.mem_of_getElem? hi)) r name).trans ?_
      show _ ↔ ∀ p' ∈ e.pending[i]?, _
      rw [hi]
      simp

/-- A call that is as it has to be leaves no request of `register_access`. -/
theorem newPending_function {fn : Function} {args : Option Nat} {malloc : Bool} {answer : Answer}
    (h : CallMeets fn args malloc answer) :
    ∀ p ∈ newPending fn args answer, p.function ≠ .registerAccess := by
  intro p hp heq
  cases args with
  | none => exact absurd hp List.not_mem_nil
  | some future =>
      cases answer with
      | refused => exact absurd hp List.not_mem_nil
      | accepted task =>
          cases task with
          | false => exact absurd hp List.not_mem_nil
          | true =>
              rw [List.mem_singleton.mp hp] at heq
              obtain rfl : fn = .registerAccess := heq
              exact (h rfl).2 rfl

/-- Where a pending request comes from. -/
theorem step_pending {l : Label} (h : e.step l = some e') {p : Pending} (hp : p ∈ e'.pending) :
    p ∈ e.pending ∨ ∃ fn args malloc answer, l = .call fn args malloc answer ∧
      p ∈ newPending fn args answer := by
  unfold Extension.step at h
  split at h
  · cases h
  obtain ⟨x, hx, rfl⟩ := Option.map_eq_some_iff.mp h
  cases x with
  | error crash => exact .inl hp
  | ok e' =>
      have huse : ∀ {o c}, e.use o c = some (.ok e') → p ∈ e.pending := by
        intro o c hx
        unfold Extension.use at hx
        split at hx
        · cases hx
        split at hx
        · cases hx
        obtain rfl := Except.ok.inj (Option.some.inj hx)
        exact hp
      cases l with
      | create =>
          obtain rfl := Except.ok.inj (Option.some.inj hx)
          exact .inl hp
      | take o => exact .inl (huse hx)
      | drop o => exact .inl (huse hx)
      | call fn args malloc answer =>
          unfold Extension.act at hx
          dsimp only at hx
          split at hx
          · cases hx
          split at hx
          · cases hx
          obtain ⟨⟨counts, returned⟩, _, heq⟩ := Fallible.bind_eq_ok.mp (Option.some.inj hx)
          obtain rfl := Except.ok.inj heq
          exact (List.mem_append.mp hp).imp id (fun h => ⟨fn, args, malloc, answer, rfl, h⟩)
      | complete i r name =>
          obtain ⟨q, _, hx⟩ := Option.map_eq_some_iff.mp hx
          obtain ⟨counts, _, heq⟩ := Fallible.bind_eq_ok.mp hx
          obtain rfl := Except.ok.inj heq
          exact .inl (List.mem_of_mem_eraseIdx hp)

/-- What is true in runs whose steps are as they have to be. -/
structure Sound (e : Extension) : Prop where
  balanced : Balanced e
  pending : ∀ p ∈ e.pending, p.function ≠ .registerAccess

theorem start_sound (refs : Nat) : Sound (.start refs) := by
  refine ⟨⟨fun n => ?_, ?_, fun _ h => absurd h List.not_mem_nil, rfl⟩,
    fun _ h => absurd h List.not_mem_nil⟩
  · rfl
  · show (0 : Int) ≤ refs - refs
    omega

theorem step_sound {l : Label} (hl : Meets e l) (hs : Sound e) (h : e.step l = some e') :
    Sound e' := by
  refine ⟨((step_keeps_iff hs.balanced hs.pending h).mpr hl).balanced, ?_⟩
  intro p hp
  rcases step_pending h hp with hp | ⟨fn, args, malloc, answer, rfl, hp⟩
  · exact hs.pending p hp
  · exact newPending_function hl p hp

theorem reaches_sound (h : Transition.Reaches Extension.step Meets Extension.Initial e) :
    Sound e := by
  refine h.invariant ?_ (fun _ _ _ _ hl hs h => step_sound hl hs h)
  rintro _ ⟨refs, rfl⟩
  exact start_sound refs

/-- **The books of the futures are in order** in every run whose steps are as they have to be, and
no longer after the first step that is not. -/
theorem futures_balanced_iff (h : Transition.Reaches Extension.step Meets Extension.Initial e) :
    Balanced e ∧ ∀ l e', e.step l = some e' → (Keeps e e' ↔ Meets e l) := by
  have hs := reaches_sound h
  exact ⟨hs.balanced, fun l e' h => step_keeps_iff hs.balanced hs.pending h⟩

/-- Two requests for one future, of which one times out. -/
theorem futures_balanced_two : ∃ e, Transition.Reaches Extension.step Meets Extension.Initial e ∧
    e.pending = [⟨.executeCommand, 0⟩] ∧ e.counts.held (.future 0) = 1 ∧ Balanced e := by
  have hrun : ∃ e, Transition.run Extension.step Meets (.start 1)
      [.create, .call .getNodeInfo (some 0) true (.accepted true),
        .call .executeCommand (some 0) true (.accepted true),
        .complete 0 (-ETIMEDOUT) []] = some e ∧
      e.pending = [⟨.executeCommand, 0⟩] ∧ e.counts.held (.future 0) = 1 := ⟨_, rfl, rfl, rfl⟩
  obtain ⟨e, hrun, hpending, hheld⟩ := hrun
  have hinit : Extension.Initial (.start 1) := ⟨1, rfl⟩
  have hreaches := (Transition.Reaches.init hinit).run hrun
  exact ⟨e, hreaches, hpending, hheld, (futures_balanced_iff hreaches).1⟩

/-- `register_access` counts one reference, and returns it. -/
theorem access_unowned :
    ¬ ∀ e, Transition.Reaches Extension.step Transition.free Extension.Initial e → Balanced e := by
  intro h
  have hrun : ∃ e, Transition.run Extension.step Transition.free (.start 1)
      [.create, .call .registerAccess (some 0) true (.accepted true)] = some e ∧
      e.pending = [⟨.registerAccess, 0⟩] ∧ e.counts.held (.future 0) = 0 := ⟨_, rfl, rfl, rfl⟩
  obtain ⟨e, hrun, hpending, hheld⟩ := hrun
  have hinit : Extension.Initial (.start 1) := ⟨1, rfl⟩
  have hcovers := (h e ((Transition.Reaches.init hinit).run hrun)).futures 0
  unfold Counts.Covers at hcovers
  rw [hpending, hheld] at hcovers
  cases hcovers

end Wlmio.Proof

import Omnipax.Idempotency

/-!
# Requests with one idempotency key

The cache is read before the handler runs and written after it has answered, and
nothing is reserved in between. So requests that overlap are all handled. Where
a key is looked up again only after a response has been stored, and the
responses are truthy, one request is handled and all are answered alike.
-/

namespace Omnipax.Idempotency

open Conc Prog

open Payments (truthy?)

namespace Cmd

def isGet : Cmd → Bool
  | .get _ => true
  | _ => false

def isHandle : Cmd → Bool
  | .handle _ => true
  | _ => false

def isSet : Cmd → Bool
  | .set .. => true
  | _ => false

end Cmd

variable {C : CacheManager}

/-- The first request to arrive at the cache. -/
def first? (hist : List (RequestEvent C)) : Option (RequestEvent C) :=
  hist.reverse.find? (·.cmd.isGet)

/-- Requests with this key, which arrive before the time of what the first of
them has stored is over. The handler and the cache do not fail. -/
def retries (C : CacheManager) (key : String) : Discipline sig (World C) Oracle Request where
  starts request := truthy? request.idempotencyKey = some key
  allows _ _ c o s := o.failure = none ∧ o.evicted = false ∧
    (c.isHandle = true → o.handled.toBool = true) ∧
    (c.isGet = true → ∀ e ∈ first? s.hist, s.world.clock < e.before.clock + 300000)

/-- All but the first arrive after a response has been stored, and the handler's
responses are truthy. -/
def settledRetries (C : CacheManager) (key : String) : Discipline sig (World C) Oracle Request where
  starts request := truthy? request.idempotencyKey = some key
  allows i request c o s := (retries C key).allows i request c o s ∧
    (c.isHandle = true → ∀ response, o.handled = .ok response → Json.truthy response = true) ∧
    (c.isGet = true → s.hist.any (·.cmd.isGet) = true → s.hist.any (·.cmd.isSet) = true)

/-- The handler has run at most once, every response given is what it returned, and each
request that is over has got one. -/
structure AnsweredOnce (cfg : Config sig (World C) Oracle String Unit Request) : Prop where
  once : cfg.hist.countP (·.cmd.isHandle) ≤ 1
  same : ∀ e ∈ cfg.hist, ∀ response, e.cmd = .respond response →
    ∃ e' ∈ cfg.hist, Handles e' response
  answered : ∀ (i : Nat) (th : Thread sig String Unit Request), cfg.threads[i]? = some th →
    (∃ c k, th.prog = .call c k) ∨ ∃ e ∈ cfg.hist, e.tid = i ∧ ∃ response, e.cmd = .respond response

/-! ## The outline -/

section Outline

variable {key : String} {s : RequestSnap C} {i j : Nat} {request : Request} {c : Cmd} {o : Oracle}

def Handled (hist : List (RequestEvent C)) (response : Option Json) : Prop :=
  ∃ e ∈ hist, Handles e response

theorem Handled.cons {hist : List (RequestEvent C)} {response : Option Json}
    (h : Handled hist response) (e : RequestEvent C) : Handled (e :: hist) response := by
  obtain ⟨e', he', hhandles⟩ := h
  exact ⟨e', List.mem_cons_of_mem _ he', hhandles⟩

/-- Call `i` was the first to arrive. -/
def Leads (i : Nat) (hist : List (RequestEvent C)) : Prop := ∃ e ∈ first? hist, e.tid = i

theorem first?_cons (e : RequestEvent C) (hist : List (RequestEvent C)) :
    first? (e :: hist) = (first? hist).or (if e.cmd.isGet then some e else none) := by
  unfold first?
  rw [List.reverse_cons, List.find?_append, List.find?_singleton]

theorem first?_of_some {hist : List (RequestEvent C)} {e : RequestEvent C}
    (h : first? hist = some e) (e' : RequestEvent C) : first? (e' :: hist) = some e := by
  rw [first?_cons, h, Option.some_or]

theorem mem_of_first? {hist : List (RequestEvent C)} {e : RequestEvent C}
    (h : first? hist = some e) : e ∈ hist :=
  List.mem_reverse.mp (List.mem_of_find?_eq_some h)

theorem Leads.cons {hist : List (RequestEvent C)} (h : Leads i hist) (e : RequestEvent C) :
    Leads i (e :: hist) := by
  obtain ⟨e', he', hi⟩ := h
  exact ⟨e', first?_of_some he' e, hi⟩

theorem Leads.unique {hist : List (RequestEvent C)} (h : Leads i hist) (h' : Leads j hist) :
    i = j := by
  obtain ⟨e, he, rfl⟩ := h
  obtain ⟨e', he', rfl⟩ := h'
  rw [Option.some.inj (he.symm.trans he')]

/-- Nothing is in the cache until a response is stored, and from then on that
response, until the time of the first request is over. -/
structure Retried (s : RequestSnap C) (key : String) : Prop where
  once : s.hist.countP (·.cmd.isHandle) ≤ 1
  clocks : ∀ e ∈ s.hist, e.before.clock ≤ s.world.clock
  first : first? s.hist = none → s.hist = []
  unset : s.hist.any (·.cmd.isSet) = false → ∀ now, C.get s.world.store now key = none
  stored : s.hist.any (·.cmd.isSet) = true → ∀ e ∈ first? s.hist, ∃ value,
    Json.truthy (some value) = true ∧ Handled s.hist (some value) ∧
      ∀ now, s.world.clock ≤ now → now < e.before.clock + 300000 →
        C.get s.world.store now key = some value
  same : ∀ e ∈ s.hist, ∀ response, e.cmd = .respond response → Handled s.hist response

theorem retried_idle (C : CacheManager) (key : String) : Retried (idle C).toSnap key where
  once := Nat.zero_le _
  clocks _ he := absurd he List.not_mem_nil
  first _ := rfl
  unset _ now := C.get_empty now key
  stored hset := Bool.noConfusion hset
  same _ he := absurd he List.not_mem_nil

/-- When a request issues a command. -/
def RetryPre (key : String) (i : Nat) (request : Request) (c : Cmd) (s : RequestSnap C) : Prop :=
  match c with
  | .get k => k = key
  | .handle r => r = request ∧ Leads i s.hist ∧ s.hist.any (·.cmd.isHandle) = false
  | .respond response => first? s.hist ≠ none ∧ Handled s.hist response
  | .set k value ttl => k = key ∧ ttl = 300000 ∧ first? s.hist ≠ none ∧
      Json.truthy value = true ∧ Handled s.hist value

def retryOutline (C : CacheManager) (key : String) : Outline sig (World C) Oracle Request where
  toDiscipline := settledRetries C key
  inv s := Retried s key
  pre := RetryPre key

theorem exec_world (hc : c.isSet = false) (w : World C) : (exec C c o w).2 = w := by
  cases c with
  | get k =>
      unfold exec
      dsimp only
      split <;> rfl
  | handle r => rfl
  | respond response => rfl
  | set k value ttl => cases hc

theorem Retried.arrived (h : Retried s key) (hset : s.hist.any (·.cmd.isSet) = true) :
    ∃ e, first? s.hist = some e := by
  refine Option.ne_none_iff_exists'.mp fun hnone => ?_
  rw [h.first hnone] at hset
  cases hset

theorem first?_exec (hpre : RetryPre key i request c s) :
    first? (⟨i, request, c, o, s.world⟩ :: s.hist) ≠ none := by
  have hold : first? s.hist ≠ none → first? (⟨i, request, c, o, s.world⟩ :: s.hist) ≠ none := by
    intro h
    obtain ⟨e, he⟩ := Option.ne_none_iff_exists'.mp h
    rw [first?_of_some he]
    exact Option.some_ne_none e
  cases c with
  | get k =>
      rw [first?_cons]
      cases first? s.hist <;> simp [Cmd.isGet]
  | handle r =>
      obtain ⟨e, he, -⟩ := hpre.2.1
      exact hold (by rw [he]; exact Option.some_ne_none e)
  | respond response => exact hold hpre.1
  | set k value ttl => exact hold hpre.2.2.1

theorem handles_le (h : Retried s key) (hpre : RetryPre key i request c s) :
    (s.exec (requests C) i request c o).hist.countP (·.cmd.isHandle) ≤ 1 := by
  rw [Snap.exec_hist, List.countP_cons]
  cases c with
  | handle r =>
      have hnone : s.hist.countP (·.cmd.isHandle) = 0 :=
        List.countP_eq_zero.mpr fun e he hhandle =>
          Bool.false_ne_true (hpre.2.2.symm.trans (List.any_eq_true.mpr ⟨e, he, hhandle⟩))
      show s.hist.countP (·.cmd.isHandle) + 1 ≤ 1
      omega
  | get k => exact h.once
  | respond response => exact h.once
  | set k value ttl => exact h.once

/-- **Step**: one request is handled, and what is stored stays. -/
theorem retried_exec (h : Retried s key) (hpre : RetryPre key i request c s)
    (hfailure : o.failure = none) : Retried (s.exec (requests C) i request c o) key := by
  have hclock : (exec C c o s.world).2.clock = s.world.clock := by
    cases c with
    | set k value ttl =>
        unfold exec
        dsimp only
        split <;> rfl
    | _ => rw [exec_world rfl]
  have hclocks : ∀ e ∈ (s.exec (requests C) i request c o).hist,
      e.before.clock ≤ (s.exec (requests C) i request c o).world.clock := by
    intro e he
    show _ ≤ (exec C c o s.world).2.clock
    rw [hclock]
    rcases List.mem_cons.mp he with rfl | he
    · exact le_refl _
    · exact h.clocks e he
  have hsame : ∀ e ∈ (s.exec (requests C) i request c o).hist, ∀ response,
      e.cmd = .respond response → Handled (s.exec (requests C) i request c o).hist response := by
    intro e he response hrespond
    rcases List.mem_cons.mp he with rfl | he
    · obtain rfl : c = .respond response := hrespond
      exact hpre.2.cons _
    · exact (h.same e he response hrespond).cons _
  refine ⟨handles_le h hpre, hclocks, fun hnone => absurd hnone (first?_exec hpre), ?_, ?_, hsame⟩
  · intro hunset now
    obtain ⟨hc, hunset⟩ := Bool.or_eq_false_iff.mp hunset
    show C.get (exec C c o s.world).2.store now key = none
    rw [exec_world hc]
    exact h.unset hunset now
  · intro hset e he
    cases hc : c.isSet with
    | false =>
        have hset : s.hist.any (·.cmd.isSet) = true := by
          rw [Snap.exec_hist, List.any_cons] at hset
          simpa [hc] using hset
        obtain ⟨e', he'⟩ := h.arrived hset
        obtain rfl : e' = e := Option.some.inj ((first?_of_some he' _).symm.trans he)
        obtain ⟨value, htruthy, hhandled, hget⟩ := h.stored hset e' he'
        refine ⟨value, htruthy, hhandled.cons _, ?_⟩
        show ∀ now, (exec C c o s.world).2.clock ≤ now → _ →
          C.get (exec C c o s.world).2.store now key = _
        rw [exec_world hc]
        exact hget
    | true =>
        cases c with
        | set k value ttl =>
            obtain ⟨rfl, rfl, hfirst, htruthy, hhandled⟩ := hpre
            obtain ⟨e', he'⟩ := Option.ne_none_iff_exists'.mp hfirst
            obtain rfl : e' = e := Option.some.inj ((first?_of_some he' _).symm.trans he)
            cases value with
            | none => cases htruthy
            | some value =>
                refine ⟨value, htruthy, hhandled.cons _, fun now hle hlt => ?_⟩
                have harrived := h.clocks e' (mem_of_first? he')
                have hnow : s.world.clock ≤ now := hclock ▸ hle
                have hstore : (exec C (.set k (some value) 300000) o s.world).2.store
                    = C.set s.world.store s.world.clock k (some value) 300000 := by
                  simp [exec, hfailure]
                show C.get (exec C (.set k (some value) 300000) o s.world).2.store now k = _
                rw [hstore]
                exact C.get_set _ hnow (by linarith)
        | _ => cases hc

/-! ## The calls -/

theorem Leads.persistent (i : Nat) :
    Persistent (requests C) fun s : RequestSnap C => Leads i s.hist where
  exec h _ _ _ _ := h.cons _
  env h _ := h

theorem Handled.persistent (response : Option Json) :
    Persistent (requests C) fun s : RequestSnap C => Handled s.hist response where
  exec h _ _ _ _ := h.cons _
  env h _ := h

theorem unhandled_stable (key : String) (i : Nat) :
    Stable (requests C) (retryOutline C key) i fun s : RequestSnap C =>
      Leads i s.hist ∧ s.hist.any (·.cmd.isHandle) = false := by
  intro s s' h hs
  cases h with
  | env e _ => exact hs
  | @other j r c o hj _ _ hpre _ =>
      refine ⟨hs.1.cons _, ?_⟩
      rw [Snap.exec_hist, List.any_cons, hs.2, Bool.or_false]
      cases c with
      | handle r' => exact absurd (hpre.2.1.unique hs.1) hj
      | _ => rfl

/-- The call has answered its request. -/
def Answered (i : Nat) (hist : List (RequestEvent C)) : Prop :=
  ∃ e ∈ hist, e.tid = i ∧ ∃ response, e.cmd = .respond response

theorem Answered.persistent (i : Nat) :
    Persistent (requests C) fun s : RequestSnap C => Answered i s.hist where
  exec h _ _ _ _ := by
    obtain ⟨e, he, h⟩ := h
    exact ⟨e, List.mem_cons_of_mem _ he, h⟩
  env h _ := h

theorem arrived_persistent :
    Persistent (requests C) fun s : RequestSnap C => first? s.hist ≠ none where
  exec h _ _ _ _ := by
    obtain ⟨e, he⟩ := Option.ne_none_iff_exists'.mp h
    rw [Snap.exec_hist, first?_of_some he]
    exact Option.some_ne_none e
  env h _ := h

theorem wp_respond {response : Option Json} {f : Unit → M Unit}
    (hfirst : first? s.hist ≠ none) (hhandled : Handled s.hist response)
    (hf : ∀ s, first? s.hist ≠ none → Handled s.hist response → Answered i s.hist →
      (f ()).wp (requests C) (retryOutline C key) i request (fun _ s => Answered i s.hist)
        (fun _ _ => True) s) :
    (respond response >>= f).wp (requests C) (retryOutline C key) i request
      (fun _ s => Answered i s.hist) (fun _ _ => True) s := by
  have hF := (arrived_persistent (C := C)).and (Handled.persistent response)
  refine Prog.wp_call (S := sig) hF.stable ⟨hfirst, hhandled⟩ (fun _ _ h => h) fun s o _ hs _ _ => ?_
  have hs' := hF.exec hs i request (.respond response) o
  exact hf _ hs'.1 hs'.2 ⟨_, List.mem_cons_self .., rfl, response, rfl⟩

/-- The first request: it is handled, answered, and its response stored. -/
theorem wp_handled (hs : Leads i s.hist ∧ s.hist.any (·.cmd.isHandle) = false) :
    (do
      let response ← handle request
      respond response
      set key response 300000 : M Unit).wp (requests C) (retryOutline C key) i request
        (fun _ s => Answered i s.hist) (fun _ _ => True) s := by
  refine Prog.wp_call (S := sig) (unhandled_stable key i) hs (fun _ _ h => ⟨rfl, h⟩)
    fun s o _ hs hallows _ => ?_
  cases hresponse : ((requests C).exec (.handle request) o s.world).1 with
  | error e =>
      have hok := hallows.1.2.2.1 rfl
      rw [show o.handled = .error e from hresponse] at hok
      cases hok
  | ok response =>
      have hleads := (Leads.persistent (C := C) i).exec hs.1 i request (.handle request) o
      have htruthy := hallows.2.1 rfl response hresponse
      have hhandled : Handled (s.exec (requests C) i request (.handle request) o).hist response :=
        ⟨_, List.mem_cons_self .., rfl, hresponse⟩
      have hfirst : first? (s.exec (requests C) i request (.handle request) o).hist ≠ none := by
        obtain ⟨e, he, -⟩ := hleads
        rw [he]
        exact Option.some_ne_none e
      refine wp_respond (f := fun _ => set key response 300000) hfirst hhandled
        fun s hfirst hhandled hanswered => ?_
      have hF := ((arrived_persistent (C := C)).and (Handled.persistent response)).and
        (Answered.persistent i)
      refine Prog.wp_call (S := sig) hF.stable ⟨⟨hfirst, hhandled⟩, hanswered⟩
        (fun _ _ h => ⟨rfl, rfl, h.1.1, htruthy, h.1.2⟩) fun s o _ hs _ _ => ?_
      exact Prog.wp_ret (Answered.persistent (C := C) i).stable
        ((Answered.persistent i).exec hs.2 ..) fun _ _ h => h

theorem wp_intercept (hkey : truthy? request.idempotencyKey = some key) :
    (intercept request).wp (requests C) (retryOutline C key) i request
      (fun _ s => Answered i s.hist) (fun _ _ => True) s := by
  unfold intercept
  rw [hkey]
  refine Prog.wp_call (S := sig) persistent_true.stable trivial (fun _ _ _ => rfl)
    fun s o hinv _ hallows _ => ?_
  have hanswer : ((requests C).exec (.get key) o s.world).1
      = .ok (C.get s.world.store s.world.clock key) := by
    show (exec C (.get key) o s.world).1 = _
    simp [exec, hallows.1.1, hallows.1.2.1]
  rw [hanswer]
  cases hany : s.hist.any (·.cmd.isGet) with
  | true =>
      have hset := hallows.2.2 rfl hany
      obtain ⟨e, he⟩ := hinv.arrived hset
      obtain ⟨value, htruthy, hhandled, hget⟩ := hinv.stored hset e he
      rw [hget _ (le_refl _) (hallows.1.2.2.2 rfl e he)]
      show Prog.wp (requests C) _ i request (if Json.truthy (some value) = true then _ else _) _ _ _
      rw [if_pos htruthy]
      refine wp_respond (f := .ret) ?_ (hhandled.cons _) fun s _ _ hanswered => ?_
      · rw [Snap.exec_hist, first?_of_some he]
        exact Option.some_ne_none e
      · exact Prog.wp_ret (Answered.persistent (C := C) i).stable hanswered fun _ _ h => h
  | false =>
      have hnone : first? s.hist = none := by
        refine List.find?_eq_none.mpr fun e he hget => ?_
        rw [List.any_eq_true.mpr ⟨e, List.mem_reverse.mp he, hget⟩] at hany
        cases hany
      have hempty := hinv.first hnone
      rw [hinv.unset (by rw [hempty]; rfl)]
      refine wp_handled ⟨⟨⟨i, request, .get key, o, s.world⟩, ?_, rfl⟩, ?_⟩
      · rw [Snap.exec_hist, first?_cons, hnone]
        rfl
      · rw [Snap.exec_hist, hempty]
        rfl

theorem retryOutline_valid (C : CacheManager) (key : String) :
    Outline.Valid (requests C) (retryOutline C key) fun i _ _ s => Answered i s.hist where
  inv_exec hinv _ _ _ _ _ hpre hallows := retried_exec hinv hpre hallows.1.1
  inv_env h t := by
    refine ⟨h.once, fun e he => le_trans (h.clocks e he) (le_max_left _ _), h.first, h.unset,
      fun hset e he => ?_, h.same⟩
    obtain ⟨value, htruthy, hhandled, hget⟩ := h.stored hset e he
    exact ⟨value, htruthy, hhandled, fun now hle hlt => hget now (le_trans (le_max_left _ _) hle) hlt⟩
  body i request s hkey _ _ := wp_intercept hkey

/-- Neither a look into the cache nor the handler fails. Whether the cache keeps what it is
given does not matter. -/
def succeeds : (c : sig.Cmd) → sig.Resp c → Prop
  | .get _, r => r.isOk = true
  | .handle _, r => r.isOk = true
  | .respond _, _ => True
  | .set .., _ => True

theorem throwless_intercept (request : Request) : (intercept request).Throwless succeeds := by
  have hhandle : ∀ f : Option Json → M Unit, (∀ response, (f response).Throwless succeeds) →
      (handle request >>= f).Throwless succeeds := by
    intro f hf r hr
    cases r with
    | ok response => exact hf response
    | error e => cases hr
  unfold intercept
  split
  · exact hhandle _ fun response _ _ => trivial
  · intro r hr
    cases r with
    | error e => cases hr
    | ok cached =>
        show Prog.Throwless succeeds (if Json.truthy cached = true then _ else _)
        split
        · exact fun _ _ => trivial
        · exact hhandle _ fun response _ _ _ _ => trivial

end Outline

/-! ## Runs -/

/-- **Retries**: along every run of `settledRetries` the handler runs once, and
every request gets its response. -/
theorem answeredOnce_run (C : CacheManager) (key : String) {ls : List (Label Oracle Time Request)}
    (hls : (settledRetries C key).admitsRun (requests C) (idle C) ls) :
    AnsweredOnce ((idle C).run (requests C) ls) := by
  have hgood : Outline.Good (requests C) (retryOutline C key) (fun i _ _ s => Answered i s.hist)
      ((idle C).run (requests C) ls) :=
    Outline.sound (retryOutline_valid C key) (Outline.Good.idle (retried_idle C key)) hls
  have hcan : ∀ i request c o s, (settledRetries C key).allows i request c o s →
      succeeds c ((requests C).exec c o s.world).1 := by
    intro i request c o s hallows
    cases c with
    | get k =>
        show (exec C (.get k) o s.world).1.isOk = true
        simp [exec, hallows.1.1, Except.isOk, Except.toBool]
    | handle r => exact hallows.1.2.2.1 rfl
    | _ => trivial
  have hthrowless := Config.throwless_run (fun request _ => throwless_intercept request) hcan
    (fun th hth => absurd hth List.not_mem_nil) hls
  generalize (idle C).run (requests C) ls = cfg at hgood hthrowless ⊢
  refine ⟨hgood.inv.once, hgood.inv.same, fun i th hth => ?_⟩
  obtain ⟨request, prog⟩ := th
  cases prog with
  | call c k => exact Or.inl ⟨c, k, rfl⟩
  | err e => exact (hthrowless _ (List.mem_of_getElem? hth)).elim
  | ret r => exact Or.inr (hgood.result hth)

section Decisions

variable (C : CacheManager) (key : String)

instance : DecidablePred (retries C key).starts :=
  fun request => inferInstanceAs (Decidable (truthy? request.idempotencyKey = some key))

instance (i : Nat) (request : Request) (c : Cmd) (o : Oracle) :
    DecidablePred ((retries C key).allows i request c o) := fun s =>
  inferInstanceAs (Decidable (o.failure = none ∧ o.evicted = false ∧
    (c.isHandle = true → o.handled.toBool = true) ∧
    (c.isGet = true → ∀ e ∈ first? s.hist, s.world.clock < e.before.clock + 300000)))

instance : DecidablePred (settledRetries C key).starts :=
  fun request => inferInstanceAs (Decidable (truthy? request.idempotencyKey = some key))

/-- A response of the handler is truthy. -/
def handledTruthy (o : Oracle) : Bool :=
  match o.handled with
  | .ok response => Json.truthy response
  | .error _ => true

theorem handledTruthy_iff (o : Oracle) :
    handledTruthy o = true ↔ ∀ response, o.handled = .ok response → Json.truthy response = true := by
  unfold handledTruthy
  cases o.handled <;> simp

instance (i : Nat) (request : Request) (c : Cmd) (o : Oracle) :
    DecidablePred ((settledRetries C key).allows i request c o) := fun s =>
  decidable_of_iff ((retries C key).allows i request c o s ∧
    (c.isHandle = true → handledTruthy o = true) ∧
    (c.isGet = true → s.hist.any (·.cmd.isGet) = true → s.hist.any (·.cmd.isSet) = true))
    (by rw [handledTruthy_iff]; rfl)

end Decisions

/-- A handler that answers with this. -/
def answers (response : Option Json) : Oracle := ⟨.ok response, none, false⟩

/-- A request, and the same again when it has been answered. -/
def retriedLater : List (Label Oracle Time Request) :=
  .spawn (lockSeats "u1") :: List.replicate 4 (.step 0 (answers (some (.bool true)))) ++
    [.env 299999, .spawn (lockSeats "u1")] ++
    List.replicate 2 (.step 1 (answers (some (.bool false))))

/-- The same request again, while the first one is handled. -/
def retriedAtOnce : List (Label Oracle Time Request) :=
  [.spawn (lockSeats "u1"), .spawn (lockSeats "u1"), .step 0 (answers (some (.bool true))),
    .step 1 (answers (some (.bool true))), .step 0 (answers (some (.bool true))),
    .step 1 (answers (some (.bool true)))]

theorem answeredOnce_retriedLater :
    ((idle memoryStore).run (requests memoryStore) retriedLater).hist.countP (·.cmd.isHandle) = 1 ∧
      AnsweredOnce ((idle memoryStore).run (requests memoryStore) retriedLater) :=
  ⟨by decide +kernel, answeredOnce_run memoryStore "k1" (by decide +kernel)⟩

/-- Two requests that overlap are both handled. -/
theorem not_answeredOnce_retriedAtOnce :
    ¬ ∀ (C : CacheManager) (key : String) (ls : List (Label Oracle Time Request)),
      (retries C key).admitsRun (requests C) (idle C) ls →
      AnsweredOnce ((idle C).run (requests C) ls) := by
  intro h
  have honce := (h memoryStore "k1" retriedAtOnce (by decide +kernel)).once
  revert honce
  decide +kernel

end Omnipax.Idempotency

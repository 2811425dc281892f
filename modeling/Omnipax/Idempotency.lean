import Mathlib.Tactic.Linarith
import Omnipax.Conc.Transcript
import Omnipax.Json
import Omnipax.Payments

/-!
# The idempotency interceptor

`IdempotencyInterceptor.intercept`: a request with an `idempotency-key` is
answered from the cache if there is something under its key, and by the handler
otherwise, whose response then goes into the cache for five minutes. The cache
is shared by all requests, and the key is all it is asked for.

The cache manager is a parameter, with what the interceptor relies on of it.
The handler is whatever answers the request: the oracle. `tap` calls
`cacheManager.set` just before the response goes on, and nothing waits for it:
the command `set` is the moment at which the value is in the store, so it comes
after the response. `CACHE_MANAGER` may be the store of `CacheInterceptor` too,
for no module of the repository registers one of its own; the store here has no
other users.
-/

namespace Omnipax.Idempotency

open Conc Prog

open Payments (truthy?)

/-! ## The cache -/

/-- A cache manager: a value that is got was set under the key, and a value that
is set is got until its time is over. -/
structure CacheManager where
  Store : Type
  empty : Store
  get : Store → Time → String → Option Json
  set : Store → Time → String → Option Json → Time → Store
  get_empty : ∀ now key, get empty now key = none
  get_of_set : ∀ {store now key value ttl now' key' value'},
    get (set store now key value ttl) now' key' = some value' →
      key' = key ∧ value = some value' ∨ get store now' key' = some value'
  get_set : ∀ store {now key value ttl now'}, now ≤ now' → now' < now + ttl →
    get (set store now key (some value) ttl) now' key = some value

/-- One value a key, with the time at which it is over. -/
def memoryStore : CacheManager where
  Store := String → Option (Json × Time)
  empty _ := none
  get store now key := ((store key).filter (now < ·.2)).map (·.1)
  set store now key value ttl := fun k => if k = key then value.map (·, now + ttl) else store k
  get_empty _ _ := rfl
  get_of_set := by
    intro store now key value ttl now' key' value' h
    dsimp only at h
    by_cases hkey : key' = key
    · rw [if_pos hkey] at h
      obtain ⟨⟨v, t⟩, hv, rfl⟩ := Option.map_eq_some_iff.mp h
      obtain ⟨v', hv', hpair⟩ := Option.map_eq_some_iff.mp (Option.filter_eq_some_iff.mp hv).1
      exact Or.inl ⟨hkey, hv'.trans (congrArg some (Prod.mk.inj hpair).1)⟩
    · rw [if_neg hkey] at h
      exact Or.inr h
  get_set := by
    intro store now key value ttl now' _ hlt
    dsimp only
    rw [if_pos rfl, Option.map_some, Option.filter_some, if_pos (by exact decide_eq_true hlt)]
    rfl

/-! ## The interceptor -/

/-- What the interceptor and the handler see of a request: its route and user, its body, and
the key of the header when there is one. -/
structure Request where
  route : String
  user : String
  body : Json
  idempotencyKey : Option String

inductive Cmd where
  | get (key : String)
  | handle (request : Request)
  | respond (response : Option Json)
  | set (key : String) (value : Option Json) (ttl : Time)

abbrev sig : Sig where
  Cmd := Cmd
  Resp
    | .get _ => Except String (Option Json)
    | .handle _ => Except String (Option Json)
    | .respond _ => Unit
    | .set .. => Unit

abbrev M := Prog sig String

/-- `cacheManager.get` -/
def get (key : String) : M (Option Json) := .call (S := sig) (.get key) fun
  | .ok value => .ret value
  | .error e => .err e

/-- `next.handle()` -/
def handle (request : Request) : M (Option Json) := .call (S := sig) (.handle request) fun
  | .ok response => .ret response
  | .error e => .err e

def respond (response : Option Json) : M Unit := .call (S := sig) (.respond response) .ret

/-- `cacheManager.set`: nothing depends on how it ends. -/
def set (key : String) (value : Option Json) (ttl : Time) : M Unit :=
  .call (S := sig) (.set key value ttl) .ret

/-- `IdempotencyInterceptor.intercept` -/
def intercept (request : Request) : M Unit :=
  match truthy? request.idempotencyKey with
  | none => do
      let response ← handle request
      respond response
  | some idempotencyKey => do
      let cachedResponse ← get idempotencyKey
      if Json.truthy cachedResponse then
        respond cachedResponse
      else do
        let response ← handle request
        respond response
        -- 5 mins
        set idempotencyKey response 300000

/-! ## The pool of requests -/

structure World (C : CacheManager) where
  clock : Time
  store : C.Store

/-- How the handler ends, what the cache does not answer or answers with
nothing, and whether it stores a value. -/
structure Oracle where
  handled : Except String (Option Json)
  failure : Option String
  evicted : Bool

variable {C : CacheManager}

def exec (C : CacheManager) : (c : Cmd) → Oracle → World C → sig.Resp c × World C
  | .get key, o, w =>
      match o.failure with
      | some e => (.error e, w)
      | none => (.ok (if o.evicted then none else C.get w.store w.clock key), w)
  | .handle _, o, w => (o.handled, w)
  | .respond _, _, w => ((), w)
  | .set key value ttl, o, w =>
      if o.failure.isSome then ((), w)
      else ((), { w with store := C.set w.store w.clock key value ttl })

def requests (C : CacheManager) : System sig (World C) Oracle Time String Unit Request where
  exec := exec C
  env t w := { w with clock := max w.clock t }
  body := intercept

abbrev RequestEvent (C : CacheManager) := Conc.Event sig (World C) Oracle Request

abbrev RequestSnap (C : CacheManager) := Snap sig (World C) Oracle Request

/-- A cache with nothing in it, and no request. -/
def idle (C : CacheManager) : Config sig (World C) Oracle String Unit Request :=
  .idle ⟨0, C.empty⟩

/-! ## Where a response comes from -/

/-- The handler of the event's request has answered with it. -/
def Handles (e : RequestEvent C) (response : Option Json) : Prop :=
  e.cmd = .handle e.op ∧ e.oracle.handled = .ok response

/-- Every response that has gone out is a response of the handler to a request
for the same route and by the same user. -/
def OwnResponses (hist : List (RequestEvent C)) : Prop :=
  ∀ e ∈ hist, ∀ response, e.cmd = .respond response →
    ∃ e' ∈ hist, Handles e' response ∧ e'.op.route = e.op.route ∧ e'.op.user = e.op.user

/-- The handler has answered a request with this key with it. -/
def HandledFor (key : String) (response : Option Json) (hist : List (RequestEvent C)) : Prop :=
  ∃ e ∈ hist, Handles e response ∧ truthy? e.op.idempotencyKey = some key

theorem HandledFor.cons {key : String} {response : Option Json} {hist : List (RequestEvent C)}
    (h : HandledFor key response hist) (e : RequestEvent C) : HandledFor key response (e :: hist) := by
  obtain ⟨e', he', hhandles⟩ := h
  exact ⟨e', List.mem_cons_of_mem _ he', hhandles⟩

/-- Why a request issues a command. -/
def reason (request : Request) (t : Transcript sig) : Cmd → Prop
  | .get _ => True
  | .handle r => r = request
  | .respond response =>
      (⟨.handle request, .ok response⟩ : (c : Cmd) × sig.Resp c) ∈ t ∨
        ∃ key value, truthy? request.idempotencyKey = some key ∧ response = some value ∧
          (⟨.get key, .ok (some value)⟩ : (c : Cmd) × sig.Resp c) ∈ t
  | .set key value _ =>
      truthy? request.idempotencyKey = some key ∧
        (⟨.handle request, .ok value⟩ : (c : Cmd) × sig.Resp c) ∈ t

section Calls

variable {request : Request} {t : Transcript sig}

theorem told_handle {f : Option Json → M Unit}
    (h : ∀ response, (f response).told (reason request) (fun _ _ _ => True) (fun _ _ => True)
      (fun _ _ => True) (⟨.handle request, .ok response⟩ :: t)) :
    (handle request >>= f).told (reason request) (fun _ _ _ => True) (fun _ _ => True)
      (fun _ _ => True) t := by
  refine ⟨rfl, fun r _ => ?_⟩
  cases r with
  | ok response => exact h response
  | error e => trivial

theorem told_get {key : String} {f : Option Json → M Unit}
    (h : ∀ value, (f value).told (reason request) (fun _ _ _ => True) (fun _ _ => True)
      (fun _ _ => True) (⟨.get key, .ok value⟩ :: t)) :
    (get key >>= f).told (reason request) (fun _ _ _ => True) (fun _ _ => True)
      (fun _ _ => True) t := by
  refine ⟨trivial, fun r _ => ?_⟩
  cases r with
  | ok value => exact h value
  | error e => trivial

theorem told_intercept : (intercept request).told (reason request) (fun _ _ _ => True)
    (fun _ _ => True) (fun _ _ => True) t := by
  unfold intercept
  split
  · refine told_handle fun response => ⟨Or.inl (List.mem_cons_self ..), fun _ _ => trivial⟩
  · rename_i key hkey
    refine told_get fun cached => ?_
    by_cases htruthy : Json.truthy cached = true
    · rw [if_pos htruthy]
      cases cached with
      | none => cases htruthy
      | some value =>
          exact ⟨Or.inr ⟨key, value, hkey, rfl, List.mem_cons_self ..⟩, fun _ _ => trivial⟩
    · rw [if_neg htruthy]
      refine told_handle fun response => ⟨Or.inl (List.mem_cons_self ..), fun _ _ => ?_⟩
      exact ⟨⟨hkey, List.mem_cons_of_mem _ (List.mem_cons_self ..)⟩, fun _ _ => trivial⟩

end Calls

/-! ## Runs -/

/-- What is in the cache, what has been got from it and what has gone out, each
is a response of the handler to a request with the same key. -/
structure Traced (starts : Request → Prop) (s : RequestSnap C) : Prop where
  started : ∀ e ∈ s.hist, starts e.op
  handled : ∀ e ∈ s.hist, ∀ r, e.cmd = .handle r → r = e.op
  stored : ∀ now key value, C.get s.world.store now key = some value →
    HandledFor key (some value) s.hist
  got : ∀ i key value, (⟨.get key, .ok (some value)⟩ : (c : Cmd) × sig.Resp c) ∈
    transcript (requests C) i s.hist → HandledFor key (some value) s.hist
  answered : ∀ e ∈ s.hist, ∀ response, e.cmd = .respond response →
    ∃ e' ∈ s.hist, Handles e' response ∧ (e'.op = e.op ∨ ∃ key,
      truthy? e.op.idempotencyKey = some key ∧ truthy? e'.op.idempotencyKey = some key)

theorem traced_idle (C : CacheManager) (starts : Request → Prop) : Traced starts (idle C).toSnap where
  started _ he := absurd he List.not_mem_nil
  handled _ he := absurd he List.not_mem_nil
  stored now key value h := by
    have hempty := C.get_empty now key
    rw [show C.get C.empty now key = some value from h] at hempty
    cases hempty
  got _ _ _ h := absurd h List.not_mem_nil
  answered _ he := absurd he List.not_mem_nil

section Step

variable {starts : Request → Prop} {s : RequestSnap C} {i : Nat} {request : Request} {c : Cmd}
  {o : Oracle}

theorem handles_of_told {response : Option Json} (h : Traced starts s)
    (hsaid : (⟨.handle request, .ok response⟩ : (c : Cmd) × sig.Resp c) ∈
      transcript (requests C) i s.hist) :
    ∃ e ∈ s.hist, Handles e response ∧ e.op = request := by
  obtain ⟨⟨tid, op, cmd, o, w⟩, he, -, hanswer⟩ := mem_transcript hsaid
  obtain ⟨rfl, hresp⟩ := Sigma.mk.inj hanswer
  obtain rfl := h.handled _ he request rfl
  exact ⟨_, he, ⟨rfl, (eq_of_heq hresp).symm⟩, rfl⟩

/-- **Step**: a command with its reason keeps it. -/
theorem Traced.exec (h : Traced starts s) (hop : starts request)
    (hc : reason request (transcript (requests C) i s.hist) c) :
    Traced starts (s.exec (requests C) i request c o) where
  started := by
    intro e he
    rcases List.mem_cons.mp he with rfl | he
    · exact hop
    · exact h.started e he
  handled := by
    intro e he r hr
    rcases List.mem_cons.mp he with rfl | he
    · obtain rfl : c = .handle r := hr
      exact hc
    · exact h.handled e he r hr
  stored := by
    intro now key value hget
    have hold : C.get s.world.store now key = some value →
        HandledFor key (some value) (s.exec (requests C) i request c o).hist :=
      fun hget => (h.stored now key value hget).cons _
    change C.get (Idempotency.exec C c o s.world).2.store now key = some value at hget
    cases c with
    | get k =>
        unfold Idempotency.exec at hget
        dsimp only at hget
        cases hfailure : o.failure <;> rw [hfailure] at hget <;> exact hold hget
    | handle r => exact hold hget
    | respond response => exact hold hget
    | set k v ttl =>
        unfold Idempotency.exec at hget
        dsimp only at hget
        by_cases hfails : o.failure.isSome = true
        · rw [if_pos hfails] at hget
          exact hold hget
        · rw [if_neg hfails] at hget
          rcases C.get_of_set hget with ⟨rfl, rfl⟩ | hget
          · obtain ⟨e, he, hhandles, rfl⟩ := handles_of_told h hc.2
            exact ⟨e, List.mem_cons_of_mem _ he, hhandles, hc.1⟩
          · exact hold hget
  got := by
    intro j key value hsaid
    by_cases hij : i = j
    · subst hij
      rw [transcript_exec] at hsaid
      rcases List.mem_cons.mp hsaid with hsaid | hsaid
      · obtain ⟨rfl, hresp⟩ := Sigma.mk.inj hsaid
        have hresp : (Idempotency.exec C (.get key) o s.world).1 = .ok (some value) :=
          (eq_of_heq hresp).symm
        unfold Idempotency.exec at hresp
        dsimp only at hresp
        cases hfailure : o.failure with
        | some e =>
            rw [hfailure] at hresp
            cases hresp
        | none =>
            rw [hfailure] at hresp
            have hvalue := Except.ok.inj hresp
            cases hevicted : o.evicted <;> rw [hevicted] at hvalue
            · exact (h.stored _ key value hvalue).cons _
            · cases hvalue
      · exact (h.got i key value hsaid).cons _
    · rw [transcript_exec_other hij] at hsaid
      exact (h.got j key value hsaid).cons _
  answered := by
    intro e he response hrespond
    rcases List.mem_cons.mp he with rfl | he
    · obtain rfl : c = .respond response := hrespond
      rcases hc with hsaid | ⟨key, value, hkey, rfl, hsaid⟩
      · obtain ⟨e, he, hhandles, hsame⟩ := handles_of_told h hsaid
        exact ⟨e, List.mem_cons_of_mem _ he, hhandles, Or.inl hsame⟩
      · obtain ⟨e, he, hhandles, hsame⟩ := h.got i key value hsaid
        exact ⟨e, List.mem_cons_of_mem _ he, hhandles, Or.inr ⟨key, hkey, hsame⟩⟩
    · obtain ⟨e', he', hfrom⟩ := h.answered e he response hrespond
      exact ⟨e', List.mem_cons_of_mem _ he', hfrom⟩

end Step

theorem traced_valid (C : CacheManager) (starts : Request → Prop) :
    Outline.Valid (requests C) (toldOutline (requests C) (Discipline.free sig (World C) Oracle starts)
      (Traced starts) reason) fun _ _ _ _ => True :=
  toldOutline_valid (Q := fun _ _ _ => True) (fun _ _ _ _ _ => trivial)
    (fun _ h _ _ _ _ hop hc _ => h.exec hop hc)
    (fun _ h _ => ⟨h.started, h.handled, h.stored, h.got, h.answered⟩) fun _ _ => told_intercept

/-- **Run**: every response is a response of the handler to a request with the
same key. -/
theorem traced_run (C : CacheManager) {starts : Request → Prop}
    {ls : List (Label Oracle Time Request)} (hls : ∀ r, .spawn r ∈ ls → starts r) :
    Traced starts ((idle C).run (requests C) ls).toSnap :=
  (Outline.sound (traced_valid C starts) (Outline.Good.idle (traced_idle C starts))
    (Discipline.admitsRun_free hls)).inv

/-! ## Two requests with one key -/

/-- The first request is handled and its response is stored, and the second one
comes right after. -/
def hit (first second : Request) : List (Label Oracle Time Request) :=
  let o : Oracle := ⟨.ok (some (.bool true)), none, false⟩
  [.spawn first, .step 0 o, .step 0 o, .step 0 o, .step 0 o, .spawn second, .step 1 o, .step 1 o]

theorem hist_hit {first second : Request} {key : String}
    (hfirst : truthy? first.idempotencyKey = some key)
    (hsecond : truthy? second.idempotencyKey = some key) :
    ((idle C).run (requests C) (hit first second)).hist.map (fun e => (e.cmd, e.op)) =
      [(.respond (some (.bool true)), second), (.get key, second),
        (.set key (some (.bool true)) 300000, first), (.respond (some (.bool true)), first),
        (.handle first, first), (.get key, first)] := by
  have hget : C.get (C.set C.empty 0 key (some (.bool true)) 300000) 0 key = some (.bool true) :=
    C.get_set _ (le_refl _) (by norm_num)
  simp [hit, idle, Config.idle, Config.step, requests, intercept, hfirst, hsecond, get, handle, respond,
    set, exec, Snap.exec, C.get_empty, Json.truthy, hget]

/-- The second request is given the response to the first one. -/
theorem same_of_ownResponses_hit {first second : Request} {key : String}
    (hfirst : truthy? first.idempotencyKey = some key)
    (hsecond : truthy? second.idempotencyKey = some key)
    (h : OwnResponses ((idle C).run (requests C) (hit first second)).hist) :
    first.route = second.route ∧ first.user = second.user := by
  have hhist := hist_hit (C := C) hfirst hsecond
  obtain ⟨e, he, hevent⟩ : ∃ e ∈ ((idle C).run (requests C) (hit first second)).hist,
      (e.cmd, e.op) = (Cmd.respond (some (.bool true)), second) :=
    List.mem_map.mp (hhist ▸ List.mem_cons_self ..)
  obtain ⟨hcmd, rfl⟩ := Prod.mk.inj hevent
  obtain ⟨e', he', ⟨hhandle, -⟩, hsame⟩ := h e he _ hcmd
  have hmem := List.mem_map_of_mem (f := fun e => (e.cmd, e.op)) he'
  rw [hhist, hhandle] at hmem
  have hop : e'.op = first := by simpa using hmem
  rw [← hop]
  exact hsame

/-- **No leak**: in every run of some requests every response is one to the same
route and user, just when those that have a key in common are for one route and
by one user. -/
theorem ownResponses_iff (C : CacheManager) (starts : Request → Prop) :
    (∀ ls : List (Label Oracle Time Request), (∀ r, .spawn r ∈ ls → starts r) →
      OwnResponses ((idle C).run (requests C) ls).hist) ↔
    ∀ r r', starts r → starts r' → ∀ key, truthy? r.idempotencyKey = some key →
      truthy? r'.idempotencyKey = some key → r.route = r'.route ∧ r.user = r'.user := by
  constructor
  · intro h r r' hr hr' key hkey hkey'
    refine same_of_ownResponses_hit hkey hkey' (h (hit r r') fun op hop => ?_)
    have hspawn : op = r ∨ op = r' := by simpa [hit] using hop
    rcases hspawn with rfl | rfl
    · exact hr
    · exact hr'
  · intro h ls hls e he response hrespond
    have htraced := traced_run C hls
    obtain ⟨e', he', hhandles, hop | ⟨key, hkey, hkey'⟩⟩ := htraced.answered e he response hrespond
    · exact ⟨e', he', hhandles, congrArg Request.route hop, congrArg Request.user hop⟩
    · exact ⟨e', he', hhandles,
        h e'.op e.op (htraced.started e' he') (htraced.started e he) key hkey' hkey⟩

/-- A request of the user to lock seats, with a key of the client's choice. -/
def lockSeats (user : String) : Request where
  route := "POST /shows/s1/lock-seats"
  user
  body := .null
  idempotencyKey := some "k1"

theorem key_lockSeats (user : String) : truthy? (lockSeats user).idempotencyKey = some "k1" := rfl

/-- Two users with one key. -/
theorem not_ownResponses_shared :
    ¬ ∀ (C : CacheManager) (ls : List (Label Oracle Time Request)),
      OwnResponses ((idle C).run (requests C) ls).hist := by
  intro h
  obtain ⟨-, huser⟩ := same_of_ownResponses_hit (key_lockSeats "u1") (key_lockSeats "u2")
    (h memoryStore _)
  exact absurd huser (by decide)

end Omnipax.Idempotency

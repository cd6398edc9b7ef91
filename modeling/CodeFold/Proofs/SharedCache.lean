import CodeFold.Cache
import CodeFold.Proofs.SortedMap
import Mathlib.Logic.Function.Basic

/-!
# A cache that clients share

Clients share a cache. A call that computes looks the ranges up and, if they are not known, sets them
later, when they are computed; other clients may make steps in between, so that the ranges of an old
revision can come back after those of a newer one, or after they were forgotten. As long as everyone
computes the same ranges for a document and a revision, no client can tell: a call gives the ranges
that it would compute itself. Which revision is known is decided by the last call that came back.
Specification: §11.5.
-/

namespace CodeFold

/-! ### One operation -/

namespace RangeCache

variable {c : RangeCache} {key k : String} {revision r : Nat} {ranges : List FoldRange}

private theorem get?_erase : (c.erase key).get? k r = if k = key then none else c.get? k r := by
  have hlookup : (c.erase key).entries.lookup k = if k = key then none else c.entries.lookup k :=
    SortedMap.lookup_erase c.entries key k
  by_cases hk : k = key
  · rw [get?, hlookup, if_pos hk, if_pos hk]
  · rw [get?, hlookup, if_neg hk, if_neg hk]
    rfl

private theorem get?_insert : (c.insert key revision ranges).get? k r =
    if k = key then (if revision = r then some ranges else none) else c.get? k r := by
  have hlookup : (c.insert key revision ranges).entries.lookup k =
      if k = key then some ⟨revision, ranges⟩ else (c.erase key).entries.lookup k :=
    SortedMap.lookup_cons _ _ k
  by_cases hk : k = key
  · rw [get?, hlookup, if_pos hk, if_pos hk]
  · have herase : (c.erase key).get? k r = c.get? k r := by rw [get?_erase, if_neg hk]
    rw [← herase, if_neg hk, get?, hlookup, if_neg hk]
    rfl

@[simp] private theorem get?_empty : empty.get? k r = none := rfl

@[simp] private theorem get?_clear : c.clear.get? k r = none := rfl

/-- The documents of which something is known. -/
def keys (c : RangeCache) : List String := c.entries.map (·.1)

private theorem nodup_erase (h : c.keys.Nodup) (key : String) : (c.erase key).keys.Nodup :=
  h.sublist (List.filter_sublist.map _)

private theorem nodup_insert (h : c.keys.Nodup) (key : String) (revision : Nat)
    (ranges : List FoldRange) : (c.insert key revision ranges).keys.Nodup := by
  refine List.nodup_cons.mpr ⟨?_, nodup_erase h key⟩
  intro hmem
  obtain ⟨x, hx, hkey⟩ := List.mem_map.mp hmem
  have hne := (List.mem_filter.mp hx).2
  exact absurd hkey (of_decide_eq_true hne)

end RangeCache

/-! ### Calls and their steps -/

/-- A call of a client. -/
inductive CacheCall where
  | compute (key : String) (revision : Nat)
  | get (key : String) (revision : Nat)
  | invalidate (key : String)
  | clear
deriving DecidableEq, Repr

namespace CacheCall

/-- Whether a call decides what is known of a document. -/
def decides (key : String) : CacheCall → Bool
  | compute k _ | invalidate k => k = key
  | get _ _ => false
  | clear => true

/-- The last of some calls that decides what is known of a document. -/
def lastOn (key : String) (calls : List CacheCall) : Option CacheCall :=
  (calls.filter (decides key)).getLast?

private theorem lastOn_append_singleton (key : String) (calls : List CacheCall) (call : CacheCall) :
    lastOn key (calls ++ [call]) = if call.decides key then some call else lastOn key calls := by
  cases h : call.decides key <;> simp [lastOn, List.filter_append, h]

end CacheCall

/-- What a call leaves in a cache if nothing happens in between. -/
def RangeCache.perform (f : String → Nat → List FoldRange) (c : RangeCache) :
    CacheCall → RangeCache
  | .compute key revision => (c.getOrCompute key revision fun _ => f key revision).2.2
  | .get _ _ => c
  | .invalidate key => c.erase key
  | .clear => c.clear

/-- A call that has come back, with the ranges that it gave. -/
structure Returned (ι : Type) where
  client : ι
  call : CacheCall
  ranges : Option (List FoldRange)
deriving DecidableEq, Repr

/-- What a client does to a cache at once. A call that computes begins with `lookup`, and ends with
`insert` if nothing was found. -/
inductive CacheStep where
  | lookup (key : String) (revision : Nat)
  | insert
  | get (key : String) (revision : Nat)
  | invalidate (key : String)
  | clear
deriving DecidableEq, Repr

/-- A cache with its clients. -/
structure SharedCache (ι : Type) where
  cache : RangeCache
  /-- The document and the revision that a client computes the ranges of. -/
  computing : ι → Option (String × Nat)
  /-- The calls that have come back, the last one at the end. -/
  history : List (Returned ι)

namespace SharedCache

variable {ι : Type} [DecidableEq ι] {f : String → Nat → List FoldRange}

/-- Nothing is known and nobody has called. -/
def start : SharedCache ι := ⟨.empty, fun _ => none, []⟩

/-- The calls that have come back. -/
def calls (s : SharedCache ι) : List CacheCall := s.history.map (·.call)

/-- A call comes back. -/
def reply (s : SharedCache ι) (i : ι) (call : CacheCall) (ranges : Option (List FoldRange)) :
    SharedCache ι :=
  { s with history := s.history ++ [⟨i, call, ranges⟩] }

/-- A client makes a step, if it can: one that computes has to set what it has computed. -/
def step? (f : String → Nat → List FoldRange) (s : SharedCache ι) (i : ι) (step : CacheStep) :
    Option (SharedCache ι) :=
  match step, s.computing i with
  | .lookup key revision, none =>
    match s.cache.get? key revision with
    | some ranges => some (s.reply i (.compute key revision) (some ranges))
    | none =>
      some { s with computing := Function.update s.computing i (some (key, revision)) }
  | .insert, some (key, revision) =>
    let ranges := f key revision
    let s := { s with
      cache := s.cache.insert key revision ranges
      computing := Function.update s.computing i none }
    some (s.reply i (.compute key revision) (some ranges))
  | .get key revision, none =>
    some (s.reply i (.get key revision) (s.cache.get? key revision))
  | .invalidate key, none =>
    some ({ s with cache := s.cache.erase key }.reply i (.invalidate key) none)
  | .clear, none => some ({ s with cache := s.cache.clear }.reply i .clear none)
  | _, _ => none

/-- Clients make steps one after the other, in any order. -/
def run? (f : String → Nat → List FoldRange) (steps : List (ι × CacheStep)) :
    Option (SharedCache ι) :=
  steps.foldlM (fun s x => s.step? f x.1 x.2) start

/-- What a call that comes back does to the cache, and what it gives. -/
inductive Replies (f : String → Nat → List FoldRange) (c : RangeCache) :
    Returned ι → RangeCache → Prop where
  | hit {i : ι} {key : String} {revision : Nat} {ranges : List FoldRange} :
    c.get? key revision = some ranges → Replies f c ⟨i, .compute key revision, some ranges⟩ c
  | computed {i : ι} {key : String} {revision : Nat} :
    Replies f c ⟨i, .compute key revision, some (f key revision)⟩
      (c.insert key revision (f key revision))
  | get {i : ι} {key : String} {revision : Nat} :
    Replies f c ⟨i, .get key revision, c.get? key revision⟩ c
  | invalidate {i : ι} {key : String} : Replies f c ⟨i, .invalidate key, none⟩ (c.erase key)
  | clear {i : ι} : Replies f c ⟨i, .clear, none⟩ c.clear

/-- A step begins to compute and changes nothing else, or a call comes back with it. -/
theorem step?_cases {s s' : SharedCache ι} {i : ι} {step : CacheStep}
    (h : s.step? f i step = some s') :
    (s'.cache = s.cache ∧ s'.history = s.history) ∨
      ∃ x, s'.history = s.history ++ [x] ∧ Replies f s.cache x s'.cache := by
  unfold step? at h
  split at h
  · split at h
    · next hget =>
      cases h
      exact .inr ⟨_, rfl, .hit hget⟩
    · cases h
      exact .inl ⟨rfl, rfl⟩
  · cases h
    exact .inr ⟨_, rfl, .computed⟩
  · cases h
    exact .inr ⟨_, rfl, .get⟩
  · cases h
    exact .inr ⟨_, rfl, .invalidate⟩
  · cases h
    exact .inr ⟨_, rfl, .clear⟩
  · cases h

/-! ### What a call that comes back preserves -/

/-- All ranges that are known are those that clients compute. -/
def Sound (f : String → Nat → List FoldRange) (c : RangeCache) : Prop :=
  ∀ k r ranges, c.get? k r = some ranges → ranges = f k r

/-- What is known is decided by the last of the calls on a document. -/
def Recalls (c : RangeCache) (calls : List CacheCall) : Prop :=
  ∀ k r, (c.get? k r).isSome = true ↔ CacheCall.lastOn k calls = some (.compute k r)

variable {c c' : RangeCache} {x : Returned ι} {calls : List CacheCall}

omit [DecidableEq ι] in
private theorem Replies.sound (h : Replies f c x c') (hc : Sound f c) : Sound f c' := by
  intro k r ranges hget
  cases h with
  | hit | get => exact hc k r ranges hget
  | @computed i key revision =>
    rw [RangeCache.get?_insert] at hget
    by_cases hk : k = key
    · rw [if_pos hk] at hget
      by_cases hr : revision = r
      · rw [if_pos hr] at hget
        rw [hk, ← hr]
        exact (Option.some.inj hget).symm
      · simp [hr] at hget
    · rw [if_neg hk] at hget
      exact hc k r ranges hget
  | @invalidate i key =>
    rw [RangeCache.get?_erase] at hget
    by_cases hk : k = key
    · simp [hk] at hget
    · rw [if_neg hk] at hget
      exact hc k r ranges hget
  | clear => cases hget

omit [DecidableEq ι] in
private theorem Replies.nodup (h : Replies f c x c') (hc : c.keys.Nodup) : c'.keys.Nodup := by
  cases h with
  | hit | get => exact hc
  | computed => exact RangeCache.nodup_insert hc _ _ _
  | invalidate => exact RangeCache.nodup_erase hc _
  | clear => exact List.nodup_nil

omit [DecidableEq ι] in
private theorem Replies.recalls (h : Replies f c x c') (hc : Recalls c calls) :
    Recalls c' (calls ++ [x.call]) := by
  intro k r
  rw [CacheCall.lastOn_append_singleton]
  cases h with
  | @hit i key revision ranges hget =>
    by_cases hk : key = k
    · subst hk
      -- What is found was set by the last call on the document, so that one had this revision too.
      have hlast := (hc key revision).mp (by rw [hget]; rfl)
      rw [hc key r, hlast]
      simp [CacheCall.decides]
    · rw [hc k r]
      simp [CacheCall.decides, hk]
  | @computed i key revision =>
    rw [RangeCache.get?_insert]
    by_cases hk : k = key
    · by_cases hr : revision = r
      · simp [CacheCall.decides, hk, hr]
      · simp [CacheCall.decides, hk, hr]
    · rw [if_neg hk, hc k r]
      simp [CacheCall.decides, Ne.symm hk]
  | get =>
    rw [hc k r]
    simp [CacheCall.decides]
  | @invalidate i key =>
    rw [RangeCache.get?_erase]
    by_cases hk : k = key
    · simp [CacheCall.decides, hk]
    · rw [if_neg hk, hc k r]
      simp [CacheCall.decides, Ne.symm hk]
  | clear => simp [CacheCall.decides]

/-- A call gives the ranges that the client would compute; a call that only asks may give none. -/
def Agrees (f : String → Nat → List FoldRange) (x : Returned ι) : Prop :=
  (∀ k r, x.call = .compute k r → x.ranges = some (f k r)) ∧
    ∀ k r, x.call = .get k r → x.ranges = none ∨ x.ranges = some (f k r)

omit [DecidableEq ι] in
private theorem Replies.agrees (h : Replies f c x c') (hc : Sound f c) : Agrees f x := by
  constructor
  · intro k r hcall
    cases h with
    | hit hget =>
      cases hcall
      exact congrArg some (hc k r _ hget)
    | computed =>
      cases hcall
      rfl
    | get | invalidate | clear => cases hcall
  · intro k r hcall
    cases h with
    | get =>
      cases hcall
      cases hget : c.get? k r with
      | none => exact .inl rfl
      | some ranges => exact .inr (congrArg some (hc k r ranges hget))
    | hit | computed | invalidate | clear => cases hcall

omit [DecidableEq ι] in
private theorem Replies.ranges_of_get (h : Replies f c x c') {k : String} {r : Nat}
    (hcall : x.call = .get k r) : x.ranges = c.get? k r := by
  cases h with
  | get =>
    cases hcall
    rfl
  | hit | computed | invalidate | clear => cases hcall

/-- A call that nothing interrupts comes back. -/
theorem exists_replies_perform (f : String → Nat → List FoldRange) (c : RangeCache)
    (call : CacheCall) : ∃ ranges, Replies f c (⟨(), call, ranges⟩ : Returned Unit)
      (c.perform f call) := by
  cases call with
  | compute key revision =>
    cases hget : c.get? key revision with
    | some ranges =>
      refine ⟨some ranges, ?_⟩
      rw [RangeCache.perform, RangeCache.getOrCompute, hget]
      exact .hit hget
    | none =>
      refine ⟨some (f key revision), ?_⟩
      rw [RangeCache.perform, RangeCache.getOrCompute, hget]
      exact .computed
  | get key revision => exact ⟨_, .get⟩
  | invalidate key => exact ⟨none, .invalidate⟩
  | clear => exact ⟨none, .clear⟩

private theorem recalls_empty : Recalls .empty [] := by
  intro k r
  simp [CacheCall.lastOn]

/-- A single client finds what the last of its calls on a document has set. -/
theorem recalls_foldl_perform (f : String → Nat → List FoldRange) (calls : List CacheCall) :
    Recalls (calls.foldl (RangeCache.perform f) .empty) calls := by
  induction calls using List.reverseRecOn with
  | nil => exact recalls_empty
  | append_singleton calls call ih =>
    obtain ⟨ranges, h⟩ := exists_replies_perform f (calls.foldl (RangeCache.perform f) .empty) call
    rw [List.foldl_append, List.foldl_cons, List.foldl_nil]
    exact h.recalls ih

/-! ### Any order of steps -/

/-- What holds whenever a shared cache is looked at. -/
structure Inv (f : String → Nat → List FoldRange) (s : SharedCache ι) : Prop where
  sound : Sound f s.cache
  nodup : s.cache.keys.Nodup
  recalls : Recalls s.cache s.calls
  agrees : ∀ x ∈ s.history, Agrees f x
  /-- A call that asked was answered from the calls that had come back before it. -/
  gets : ∀ (n : Nat) (x : Returned ι) (k : String) (r : Nat), s.history[n]? = some x →
    x.call = .get k r →
    (x.ranges.isSome = true ↔ CacheCall.lastOn k (s.calls.take n) = some (.compute k r))

omit [DecidableEq ι] in
private theorem inv_start (f : String → Nat → List FoldRange) : Inv f (start : SharedCache ι) where
  sound := by
    intro k r ranges hget
    cases hget
  nodup := List.nodup_nil
  recalls := recalls_empty
  agrees := by
    intro x hx
    cases hx
  gets := by
    intro n x k r hx
    cases hx

private theorem Inv.step {s s' : SharedCache ι} {i : ι} {step : CacheStep} (hs : Inv f s)
    (h : s.step? f i step = some s') : Inv f s' := by
  rcases step?_cases h with ⟨hcache, hhistory⟩ | ⟨x, hhistory, hreply⟩
  · have hcalls : s'.calls = s.calls := congrArg (List.map _) hhistory
    refine ⟨?_, ?_, ?_, ?_, ?_⟩
    · rw [hcache]
      exact hs.sound
    · rw [hcache]
      exact hs.nodup
    · rw [hcache, hcalls]
      exact hs.recalls
    · rw [hhistory]
      exact hs.agrees
    · rw [hhistory, hcalls]
      exact hs.gets
  · have hcalls : s'.calls = s.calls ++ [x.call] := by
      rw [calls, hhistory, List.map_append]
      rfl
    have hlength : s.calls.length = s.history.length := List.length_map _
    refine ⟨hreply.sound hs.sound, hreply.nodup hs.nodup, ?_, ?_, ?_⟩
    · rw [hcalls]
      exact hreply.recalls hs.recalls
    · intro y hy
      rw [hhistory] at hy
      rcases List.mem_append.mp hy with hy | hy
      · exact hs.agrees y hy
      · rw [List.mem_singleton.mp hy]
        exact hreply.agrees hs.sound
    · intro n y k r hy hcall
      rw [hhistory] at hy
      rw [hcalls]
      by_cases hn : n < s.history.length
      · rw [List.getElem?_append_left hn] at hy
        rw [List.take_append_of_le_length (by omega)]
        exact hs.gets n y k r hy hcall
      · -- The call that has come back now is the last one.
        have hlast : n = s.history.length ∧ y = x := by
          rw [List.getElem?_append_right (by omega)] at hy
          obtain ⟨hlt, hx⟩ := List.getElem?_eq_some_iff.mp hy
          rw [List.getElem_singleton] at hx
          rw [List.length_singleton] at hlt
          exact ⟨by omega, hx.symm⟩
        obtain ⟨rfl, rfl⟩ := hlast
        rw [← hlength, List.take_left, hreply.ranges_of_get hcall]
        exact hs.recalls k r

private theorem inv_run {steps : List (ι × CacheStep)} {s : SharedCache ι}
    (h : run? f steps = some s) : Inv f s := by
  have go (steps : List (ι × CacheStep)) (s₀ : SharedCache ι) (h₀ : Inv f s₀)
      (h : steps.foldlM (fun s x => s.step? f x.1 x.2) s₀ = some s) : Inv f s := by
    induction steps generalizing s₀ with
    | nil =>
      cases h
      exact h₀
    | cons x steps ih =>
      obtain ⟨s₁, h₁, h⟩ := Option.bind_eq_some_iff.mp h
      exact ih s₁ (h₀.step h₁) h
  exact go steps start (inv_start f) h

/-! ### Calls come back -/

/-- A client that computes can set what it has computed, and its call comes back then. -/
theorem step?_insert {s : SharedCache ι} {i : ι} {k : String} {r : Nat}
    (h : s.computing i = some (k, r)) :
    ∃ s', s.step? f i .insert = some s' ∧
      s'.history = s.history ++ [⟨i, .compute k r, some (f k r)⟩] := by
  simp [step?, h, reply]

/-- A client that does not compute can look up ranges. Its call comes back with them, or it computes
them next. -/
theorem step?_lookup {s : SharedCache ι} (hs : Sound f s.cache) {i : ι} (h : s.computing i = none)
    (k : String) (r : Nat) :
    ∃ s', s.step? f i (.lookup k r) = some s' ∧
      (s'.history = s.history ++ [⟨i, .compute k r, some (f k r)⟩] ∨
        s'.computing i = some (k, r)) := by
  cases hget : s.cache.get? k r with
  | some ranges =>
    have hranges := hs k r ranges hget
    simp [step?, h, hget, reply, hranges]
  | none => simp [step?, h, hget]

/-- The steps of a call that computes, if no other client makes one in between. -/
def computeSteps (c : RangeCache) (key : String) (revision : Nat) : List CacheStep :=
  if (c.get? key revision).isSome then [.lookup key revision] else [.lookup key revision, .insert]

/-- A call that computes does what `getOrCompute` does if nothing happens in between. -/
theorem foldlM_computeSteps {s : SharedCache ι} {i : ι} (h : s.computing i = none) (k : String)
    (r : Nat) : (computeSteps s.cache k r).foldlM (fun s step => s.step? f i step) s =
      some ({ s with cache := (s.cache.getOrCompute k r fun _ => f k r).2.2 }.reply i (.compute k r)
        (some (s.cache.getOrCompute k r fun _ => f k r).1)) := by
  cases hget : s.cache.get? k r with
  | some ranges => simp [computeSteps, RangeCache.getOrCompute, step?, h, hget]
  | none =>
    -- The client has computed nothing before, and it computes nothing afterwards.
    have hidle : Function.update s.computing i none = s.computing := by
      rw [← h, Function.update_eq_self]
    simp [computeSteps, RangeCache.getOrCompute, step?, h, hget, hidle]

/-- In whatever order clients make their steps, a call that computes gives the ranges that its client
would compute, and a call that asks gives these or none; it gives some if and only if the last call on
the document that had come back before it computed this revision, which for a single client is the
last one that it made. There is at most one entry a document. Every call that computes comes back,
with its first step or with a second one that nothing can prevent; if nobody else makes a step in
between, its steps do what `getOrCompute` does. -/
theorem run_transparent {steps : List (ι × CacheStep)} {s : SharedCache ι}
    (h : run? f steps = some s) :
    (∀ x ∈ s.history, (∀ k r, x.call = .compute k r → x.ranges = some (f k r)) ∧
      ∀ k r, x.call = .get k r → x.ranges = none ∨ x.ranges = some (f k r)) ∧
    s.cache.keys.Nodup ∧
    (∀ (n : Nat) (x : Returned ι) (k : String) (r : Nat), s.history[n]? = some x →
      x.call = .get k r →
      (x.ranges.isSome = true ↔ CacheCall.lastOn k (s.calls.take n) = some (.compute k r))) ∧
    (∀ (calls : List CacheCall) (k : String) (r : Nat),
      ((calls.foldl (RangeCache.perform f) .empty).get? k r).isSome = true ↔
        CacheCall.lastOn k calls = some (.compute k r)) ∧
    (∀ (i : ι) (k : String) (r : Nat), s.computing i = none →
      ∃ s', s.step? f i (.lookup k r) = some s' ∧
        (s'.history = s.history ++ [⟨i, .compute k r, some (f k r)⟩] ∨
          s'.computing i = some (k, r))) ∧
    (∀ (i : ι) (k : String) (r : Nat), s.computing i = some (k, r) →
      ∃ s', s.step? f i .insert = some s' ∧
        s'.history = s.history ++ [⟨i, .compute k r, some (f k r)⟩]) ∧
    ∀ (i : ι) (k : String) (r : Nat), s.computing i = none →
      (computeSteps s.cache k r).foldlM (fun s step => s.step? f i step) s =
        some ({ s with cache := (s.cache.getOrCompute k r fun _ => f k r).2.2 }.reply i
          (.compute k r) (some (s.cache.getOrCompute k r fun _ => f k r).1)) := by
  have hs := inv_run h
  refine ⟨hs.agrees, hs.nodup, hs.gets, recalls_foldl_perform f, ?_, ?_, ?_⟩
  · intro i k r hi
    exact step?_lookup hs.sound hi k r
  · intro i k r hi
    exact step?_insert hi
  · intro i k r hi
    exact foldlM_computeSteps hi k r

end SharedCache

/-- Two clients ask for two revisions of a document. The one that asks for the older revision sets its
ranges last, after the other one has set its own and forgotten them again. -/
def lateInsert : List (Bool × CacheStep) :=
  [(false, .lookup "a" 1), (true, .lookup "a" 2), (true, .insert), (true, .invalidate "a"),
    (false, .insert), (true, .get "a" 2), (true, .get "a" 1), (true, .lookup "a" 1)]

/-- The older revision is known in the end, and no call gives anything else than its own ranges. -/
theorem run_transparent_of_lateInsert :
    ∃ s, SharedCache.run? (fun _ r => [⟨0, r, .region⟩]) lateInsert = some s ∧
      s.calls = [.compute "a" 2, .invalidate "a", .compute "a" 1, .get "a" 2, .get "a" 1,
        .compute "a" 1] ∧
      (∀ x ∈ s.history, x.call = .compute "a" 1 → x.ranges = some [⟨0, 1, .region⟩]) ∧
      (∀ x ∈ s.history, x.call = .get "a" 2 → x.ranges = none ∨ x.ranges = some [⟨0, 2, .region⟩]) ∧
      s.cache.keys.Nodup ∧
      ∃ x, s.history[4]? = some x ∧ x.call = .get "a" 1 ∧ x.ranges.isSome = true := by
  have hcalls : (SharedCache.run? (fun _ r => [⟨0, r, .region⟩]) lateInsert).map (·.calls) =
      some [.compute "a" 2, .invalidate "a", .compute "a" 1, .get "a" 2, .get "a" 1,
        .compute "a" 1] := by
    decide
  obtain ⟨s, hs, hcalls⟩ := Option.map_eq_some_iff.mp hcalls
  obtain ⟨hagrees, hnodup, hgets, _⟩ := SharedCache.run_transparent hs
  refine ⟨s, hs, hcalls, fun x hx => (hagrees x hx).1 "a" 1, fun x hx => (hagrees x hx).2 "a" 2,
    hnodup, ?_⟩
  have hcall : (s.history[4]?).map (·.call) = some (.get "a" 1) := by
    rw [← List.getElem?_map]
    exact congrArg (·[4]?) hcalls
  obtain ⟨x, hx, hget⟩ := Option.map_eq_some_iff.mp hcall
  refine ⟨x, hx, hget, (hgets 4 x "a" 1 hx hget).mpr ?_⟩
  rw [hcalls]
  decide

end CodeFold

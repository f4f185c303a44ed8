import BindingCoverage.Proofs.Activity.Protocol
import BindingCoverage.Proofs.Along
import BindingCoverage.Proofs.Coverage.Report

/-!
# Clients of the registry

Several clients share a registry, and each of them makes its calls one after the other. A `Journal`
is the registry with all calls that were made so far, in their order and with their replies.

* `Mirrors`: a registry has the entries of a map from prefixes to sets, and no others.
* `mirrors_serve`: a call is answered from the map, and changes it only if it is a registration that
  is accepted.
* `journal_last_writer`: in every order of the calls of all clients, the registry mirrors the
  registrations that were accepted last, and every reply says so.
-/

namespace BindingCoverage.Registry

inductive Request where
  | register (symbolPrefix : String) (expected : DeclarationSet)
  | expected (symbolPrefix : String)
  | prefixes
  | size
  | isEmpty
  | report (symbolPrefix : String) (implemented : List String)
  deriving DecidableEq, Repr

inductive Reply where
  | registered
  | refused (e : EmptyPrefix)
  | expected (s : Option DeclarationSet)
  | prefixes (names : List String)
  | size (n : Nat)
  | isEmpty (b : Bool)
  | report (r : Option CoverageReport)
  deriving DecidableEq, Repr

/-- What the registry replies to a request, and what it is afterwards. -/
def serve (r : Registry) : Request → Reply × Registry
  | .register symbolPrefix s =>
    match r.register symbolPrefix s with
    | .ok r' => (.registered, r')
    | .error e => (.refused e, r)
  | .expected symbolPrefix => (.expected (r.expected? symbolPrefix), r)
  | .prefixes => (.prefixes r.prefixes, r)
  | .size => (.size r.size, r)
  | .isEmpty => (.isEmpty r.isEmpty, r)
  | .report symbolPrefix implemented => (.report (r.report? symbolPrefix implemented), r)

/-- A call that was made, with its reply. -/
structure Call where
  client : Nat
  request : Request
  reply : Reply
  deriving DecidableEq, Repr

structure Journal where
  registry : Registry := .empty
  calls : List Call := []
  deriving DecidableEq, Repr

namespace Journal

/-- A client makes a call. -/
def call (j : Journal) (client : Nat) (q : Request) : Journal :=
  ⟨(j.registry.serve q).2, j.calls ++ [⟨client, q, (j.registry.serve q).1⟩]⟩

/-- What a client has asked for so far. -/
def asked (j : Journal) (client : Nat) : List Request :=
  (j.calls.filter (·.client = client)).map (·.request)

end Journal

/-- A client makes its calls one after the other. Others may make theirs in between. -/
def client (i : Nat) : List Request → Activity Journal Unit
  | [] => .done ()
  | q :: rest => .step (fun j => ((), j.call i q)) fun _ => client i rest

/-- All clients, each with its requests. -/
def session (clients : List (List Request)) : List (Activity Journal Unit) :=
  clients.mapIdx client

/-! ## The map that a registry mirrors -/

/-- The set of a call that is an accepted registration for a prefix. -/
def Call.accepted? (symbolPrefix : String) (c : Call) : Option DeclarationSet :=
  match c.request, c.reply with
  | .register p s, .registered => if p = symbolPrefix then some s else none
  | _, _ => none

/-- The set of the last accepted registration for a prefix. -/
def lastAccepted (calls : List Call) (symbolPrefix : String) : Option DeclarationSet :=
  (calls.filterMap (Call.accepted? symbolPrefix)).getLast?

/-- The prefixes that have a set, each once, in the order of their octets. -/
structure Lists (m : String → Option DeclarationSet) (prefixes : List String) : Prop where
  rising : prefixes.Pairwise fun p q => Utf8.encode p < Utf8.encode q
  nonempty : "" ∉ prefixes
  mem_iff : ∀ p, p ∈ prefixes ↔ (m p).isSome

structure Mirrors (r : Registry) (m : String → Option DeclarationSet) : Prop where
  expected?_eq : ∀ p, r.expected? p = m p
  lists : Lists m r.prefixes
  size_eq : r.size = r.prefixes.length
  isEmpty_iff : r.isEmpty ↔ r.prefixes = []
  report?_eq : ∀ p implemented, r.report? p implemented = (m p).map (.compare p · implemented)

/-- The reply that is right where the sets are those of a map. -/
def Answers (m : String → Option DeclarationSet) (q : Request) (reply : Reply) : Prop :=
  match q with
  | .register p _ => reply = if p = "" then .refused .emptyPrefix else .registered
  | .expected p => reply = .expected (m p)
  | .prefixes => ∃ prefixes, Lists m prefixes ∧ reply = .prefixes prefixes
  | .size => ∃ prefixes, Lists m prefixes ∧ reply = .size prefixes.length
  | .isEmpty => ∃ prefixes, Lists m prefixes ∧ reply = .isEmpty prefixes.isEmpty
  | .report p implemented => reply = .report ((m p).map (.compare p · implemented))

theorem lastAccepted_concat (calls : List Call) (c : Call) (p : String) :
    lastAccepted (calls ++ [c]) p = (c.accepted? p).or (lastAccepted calls p) := by
  unfold lastAccepted
  rw [List.filterMap_append, List.getLast?_append]
  congr 1
  cases h : c.accepted? p with
  | none => simp [h]
  | some s => simp [h]

/-- The entries decide what a registry mirrors; the rest follows from them. -/
theorem mirrors_of_entries {r : Registry} {m : String → Option DeclarationSet}
    (hExpected : ∀ p, r.expected? p = m p) (hRising : r.prefixes.Pairwise (· < ·))
    (hNonempty : m "" = none) : r.Mirrors m where
  expected?_eq := hExpected
  lists := by
    have hMem : ∀ p, p ∈ r.prefixes ↔ (m p).isSome := by
      intro p
      rw [← hExpected p]
      exact Text.Sorted.get?_isSome_iff.symm
    refine ⟨hRising.imp Utf8.encode_lt_encode_iff.mpr, ?_, hMem⟩
    rw [hMem, hNonempty]
    exact Bool.false_ne_true
  size_eq := (List.length_map _).symm
  isEmpty_iff := by
    unfold isEmpty prefixes
    rw [List.isEmpty_iff, List.map_eq_nil_iff]
  report?_eq p implemented := by
    unfold report?
    rw [hExpected p]

theorem empty_mirrors : Registry.empty.Mirrors fun _ => none :=
  mirrors_of_entries (fun _ => rfl) List.Pairwise.nil rfl

namespace Mirrors

variable {r : Registry} {m m' : String → Option DeclarationSet}

theorem congr (h : r.Mirrors m) (hSame : ∀ p, m' p = m p) : r.Mirrors m' := by
  obtain rfl : m' = m := funext hSame
  exact h

theorem none_of_empty (h : r.Mirrors m) : m "" = none := by
  have hAbsent := mt (h.lists.mem_iff "").mpr h.lists.nonempty
  exact Option.not_isSome_iff_eq_none.mp hAbsent

theorem put (h : r.Mirrors m) {p : String} (hPrefix : p ≠ "") (s : DeclarationSet) :
    Mirrors ⟨Text.Sorted.put p s r.entries⟩ fun p' => if p = p' then some s else m p' := by
  refine mirrors_of_entries ?_ ?_ ?_
  · intro p'
    by_cases hSame : p = p'
    · subst hSame
      rw [if_pos rfl]
      exact Text.Sorted.get?_put_self _ _ _
    · rw [if_neg hSame, ← h.expected?_eq p']
      exact Text.Sorted.get?_put_of_ne (Ne.symm hSame) _ _
  · have hKeys : r.prefixes.Pairwise (· < ·) :=
      h.lists.rising.imp Utf8.encode_lt_encode_iff.mp
    unfold prefixes
    rw [Text.Sorted.keys_put]
    exact Text.Sorted.pairwise_insert p hKeys
  · rw [if_neg hPrefix, h.none_of_empty]

theorem answers (h : r.Mirrors m) (q : Request) : Answers m q (r.serve q).1 := by
  cases q with
  | register p s =>
    by_cases hPrefix : p = ""
    · simp [Answers, serve, register, hPrefix]
    · simp [Answers, serve, register, hPrefix]
  | expected p => exact congrArg Reply.expected (h.expected?_eq p)
  | prefixes => exact ⟨r.prefixes, h.lists, rfl⟩
  | size => exact ⟨r.prefixes, h.lists, congrArg Reply.size h.size_eq⟩
  | isEmpty =>
    refine ⟨r.prefixes, h.lists, congrArg Reply.isEmpty ?_⟩
    rw [Bool.eq_iff_iff, h.isEmpty_iff, List.isEmpty_iff]
  | report p implemented => exact congrArg Reply.report (h.report?_eq p implemented)

end Mirrors

/-- A request other than a registration changes nothing, and neither does a refused registration. -/
theorem serve_unchanged {r : Registry} {q : Request}
    (h : ∀ p s, q = .register p s → p = "") : (r.serve q).2 = r := by
  cases q with
  | register p s =>
    obtain rfl := h p s rfl
    rfl
  | _ => rfl

/-- One call. -/
theorem mirrors_serve {r : Registry} {m : String → Option DeclarationSet} (h : r.Mirrors m)
    (i : Nat) (q : Request) :
    Answers m q (r.serve q).1 ∧
      (r.serve q).2.Mirrors fun p =>
        (Call.accepted? p ⟨i, q, (r.serve q).1⟩).or (m p) := by
  refine ⟨h.answers q, ?_⟩
  by_cases hAccepted : ∃ p s, q = .register p s ∧ p ≠ ""
  · obtain ⟨p, s, rfl, hPrefix⟩ := hAccepted
    have hServe : r.serve (.register p s) =
        (.registered, ⟨Text.Sorted.put p s r.entries⟩) := by
      simp [serve, register, hPrefix]
    rw [hServe]
    refine (h.put hPrefix s).congr fun p' => ?_
    by_cases hSame : p = p'
    · simp [Call.accepted?, hSame]
    · simp [Call.accepted?, hSame]
  · push Not at hAccepted
    have hNone : ∀ p, Call.accepted? p ⟨i, q, (r.serve q).1⟩ = none := by
      intro p
      cases q with
      | register p' s =>
        obtain rfl := hAccepted p' s rfl
        rfl
      | _ => rfl
    rw [serve_unchanged hAccepted]
    refine h.congr fun p => ?_
    rw [hNone, Option.none_or]

/-! ## Journals -/

namespace Journal

/-- Every call was answered from the registrations before it, and the registry has them all. -/
structure Faithful (j : Journal) : Prop where
  answered : Along (fun before c => Answers (lastAccepted before) c.request c.reply) j.calls
  mirrors : j.registry.Mirrors (lastAccepted j.calls)

theorem faithful_start : Faithful {} :=
  ⟨along_nil, empty_mirrors⟩

theorem Faithful.call {j : Journal} (h : j.Faithful) (i : Nat) (q : Request) :
    (j.call i q).Faithful := by
  obtain ⟨hAnswer, hMirrors⟩ := mirrors_serve h.mirrors i q
  refine ⟨along_concat.mpr ⟨h.answered, hAnswer⟩, hMirrors.congr fun p => ?_⟩
  exact lastAccepted_concat j.calls _ p

theorem asked_call (j : Journal) (i : Nat) (q : Request) (k : Nat) :
    (j.call i q).asked k = j.asked k ++ if i = k then [q] else [] := by
  unfold asked call
  rw [List.filter_append, List.map_append]
  by_cases hSame : i = k
  · simp [hSame]
  · simp [hSame]

end Journal

/-! ## Interleavings -/

/-- What a client has not asked for yet, with its number. -/
structure Pending where
  client : Nat
  requests : List Request

/-- The client makes the next of its calls. -/
def turn (k k' : Pending) (j j' : Journal) : Prop :=
  ∃ q, k = ⟨k.client, q :: k'.requests⟩ ∧ k'.client = k.client ∧ j' = j.call k.client q

theorem obeys_client (i : Nat) (requests : List Request) :
    Activity.Obeys turn (fun _ k => k.requests = []) (client i requests) ⟨i, requests⟩ := by
  induction requests with
  | nil => exact rfl
  | cons q rest ih =>
    intro j
    exact ⟨⟨i, rest⟩, ⟨q, rfl, rfl, rfl⟩, ih⟩

/-- What the clients have asked for and what they have not is all that they ask for. -/
structure UnderWay (clients : List (List Request)) (ks : Nat → Pending) (j : Journal) : Prop where
  client_eq : ∀ i, (ks i).client = i
  requests_eq : ∀ i, j.asked i ++ (ks i).requests = (clients[i]?).getD []
  faithful : j.Faithful

theorem UnderWay.turn {clients : List (List Request)} (ks : Nat → Pending) (i : Nat) (k' : Pending)
    (j j' : Journal) (h : UnderWay clients ks j) (hTurn : turn (ks i) k' j j') :
    UnderWay clients (Function.update ks i k') j' := by
  obtain ⟨q, hNext, hClient, rfl⟩ := hTurn
  have hSelf : (ks i).client = i := h.client_eq i
  rw [hSelf] at hNext hClient ⊢
  refine ⟨?_, ?_, h.faithful.call i q⟩
  · intro k
    by_cases hSame : k = i
    · subst hSame
      rw [Function.update_self]
      exact hClient
    · rw [Function.update_of_ne hSame]
      exact h.client_eq k
  · intro k
    rw [Journal.asked_call]
    by_cases hSame : k = i
    · subst hSame
      have hBefore := h.requests_eq k
      rw [hNext] at hBefore
      rw [Function.update_self, if_pos rfl, List.append_assoc]
      exact hBefore
    · rw [Function.update_of_ne hSame, if_neg (Ne.symm hSame), List.append_nil]
      exact h.requests_eq k

theorem underWay_start (clients : List (List Request)) :
    UnderWay clients (fun i => ⟨i, (clients[i]?).getD []⟩) {} :=
  ⟨fun _ => rfl, fun _ => rfl, Journal.faithful_start⟩

theorem obeys_session (clients : List (List Request)) (i : Nat) (x : Activity Journal Unit)
    (h : (session clients)[i]? = some x) :
    Activity.Obeys turn (fun _ k => k.requests = []) x ⟨i, (clients[i]?).getD []⟩ := by
  unfold session at h
  rw [List.getElem?_mapIdx] at h
  obtain ⟨requests, hRequests, rfl⟩ := Option.map_eq_some_iff.mp h
  rw [hRequests]
  exact obeys_client i requests

/-- Whatever calls any number of clients make, and in whatever order the calls come: at every moment
the registry has for each prefix the set of the last accepted registration, and every call so far
was answered from the registrations accepted before it; only an empty prefix was refused. A refused
registration or another request changes nothing. Every client makes its calls in its own order, and
in the end it has made them all. -/
theorem journal_last_writer (clients : List (List Request)) (schedule : List Nat) :
    let now := (schedule.foldl Activity.advance (session clients, {})).2
    let last := (Activity.interleave schedule (session clients) {}).2
    now.registry.Mirrors (lastAccepted now.calls) ∧
    Along (fun before c => Answers (lastAccepted before) c.request c.reply) now.calls ∧
    (∀ q, (∀ p s, q = .register p s → p = "") → (now.registry.serve q).2 = now.registry) ∧
    (∀ i, now.asked i <+: (clients[i]?).getD []) ∧
    ∀ i, last.asked i = (clients[i]?).getD [] := by
  have hStart := underWay_start clients
  have hObeys := obeys_session clients
  obtain ⟨ks, hNow, -, -⟩ :=
    Activity.Obeys.foldl_advance _ UnderWay.turn schedule _ hStart hObeys
  obtain ⟨ks', hLast, hEnded, hBeyond⟩ :=
    Activity.Obeys.interleave _ UnderWay.turn schedule _ hStart hObeys
  refine ⟨hNow.faithful.mirrors, hNow.faithful.answered, fun q => serve_unchanged, ?_, ?_⟩
  · intro i
    exact ⟨(ks i).requests, hNow.requests_eq i⟩
  · intro i
    have hNone : (ks' i).requests = [] := by
      by_cases hInside : i < (session clients).length
      · have hLength := Activity.length_interleave schedule (session clients) {}
        exact hEnded i () (List.getElem?_eq_getElem (by omega))
      · have hOutside : clients.length ≤ i := by
          have hLength : (session clients).length = clients.length := List.length_mapIdx
          omega
        rw [hBeyond i (not_lt.mp hInside), List.getElem?_eq_none hOutside]
        rfl
    have hAll := hLast.requests_eq i
    rwa [hNone, List.append_nil] at hAll

end BindingCoverage.Registry

import ProxyForge.Lists.Builder
import ProxyForge.Proofs.Heap.Change
import ProxyForge.Proofs.Lists.Segment

/-!
# ProxyForge.Proofs.Lists.Construction — three ways to one list

`ListBuilder.Lists` is the invariant of a builder at rest: what it remembers of
its pairs, and the segment that these pairs form in the heap. `push_runs` keeps
it. The loops over given values, over an array up to its end, and over an array
whose end was looked for beforehand then run the same construction, so that
their results, heaps and calls can be compared on any backend.
-/

namespace ProxyForge

/-! ## The calls of a construction -/

/-- The value that a call tests for being the undefined object. -/
def Call.scanned? : Call Word → Option Word
  | .unary .isUnbound x => some x
  | _ => none

/-- Whether a call makes a pair or relinks one. -/
def Call.isLinking : Call Word → Bool
  | .binary .cons _ _ | .binary .setCdr _ _ => true
  | _ => false

/-- The values that the calls test, in order. -/
def scans (calls : List (Call Word)) : List Word := calls.filterMap Call.scanned?

/-- The calls that make or relink pairs, in order. -/
def linkings (calls : List (Call Word)) : List (Call Word) := calls.filter Call.isLinking

theorem scans_append (cs₁ cs₂ : List (Call Word)) :
    scans (cs₁ ++ cs₂) = scans cs₁ ++ scans cs₂ := List.filterMap_append ..

theorem linkings_append (cs₁ cs₂ : List (Call Word)) :
    linkings (cs₁ ++ cs₂) = linkings cs₁ ++ linkings cs₂ := List.filter_append ..

theorem scans_map_isUnbound (A : List Word) : scans (A.map (.unary .isUnbound)) = A := by
  induction A with
  | nil => rfl
  | cons v A ih => exact congrArg (v :: ·) ih

theorem linkings_map_isUnbound (A : List Word) :
    linkings (A.map (.unary .isUnbound)) = [] := by
  induction A with
  | nil => rfl
  | cons v A ih => exact ih

/-- How the elements `vs` come into the pairs `ps` behind the pair `last`: one `cons` for
each, and one `set_cdr` for each that has a pair before it. -/
def linkingOf (e : Word) : Option Word → List Word → List Word → List (Call Word)
  | last, v :: vs, p :: ps =>
    .binary .cons v e :: ((last.map fun l => Call.binary .setCdr l p).toList
      ++ linkingOf e (some p) vs ps)
  | _, _, _ => []

/-- The handles of the next `n` cells. -/
def Heap.nextHandles (h : Heap) (n : Nat) : List Word :=
  (List.range' h.size n).map Word.handle

theorem Heap.nextHandles_succ {h h' : Heap} (n : Nat) (hsize : h'.size = h.size + 1) :
    h.nextHandles (n + 1) = h.nextHandle :: h'.nextHandles n := by
  simp [nextHandles, nextHandle, List.range'_succ, hsize]

theorem Heap.mem_nextHandles {h : Heap} {n : Nat} {w : Word} :
    w ∈ h.nextHandles n ↔ ∃ i, h.size ≤ i ∧ i < h.size + n ∧ w = Word.handle i := by
  simp only [nextHandles, List.mem_map, List.mem_range'_1, and_assoc, eq_comm]

/-- The next handles are those of no cell so far. -/
theorem Heap.Issued.not_mem_nextHandles {h : Heap} {n : Nat} {w : Word} (hw : h.Issued w)
    (hsize : h.size + n ≤ Word.capacity) : w ∉ h.nextHandles n := by
  rcases hw with ⟨i, hi, rfl⟩
  intro hmem
  rcases Heap.mem_nextHandles.1 hmem with ⟨j, hle, hlt, heq⟩
  have hij := Word.handle_inj (by omega) (by omega) heq
  omega

/-! ## Testing for the end -/

theorem isUnbound_runs_self (b : Backend) (h : Heap) :
    Program.Runs b (Program.isUnbound b.undefined) h true h [.unary .isUnbound b.undefined] [] := by
  have hend : b.perform h (.primitive (.unary .isUnbound b.undefined)) = h.answer true := by
    show h.answer (b.undefined == b.undefined) = h.answer true
    rw [beq_self_eq_true]
  exact Program.Runs.call hend

theorem isUnbound_runs_of_ne {b : Backend} {v : Word} (hv : v ≠ b.undefined) (h : Heap) :
    Program.Runs b (Program.isUnbound v) h false h [.unary .isUnbound v] [] := by
  have hgoOn : b.perform h (.primitive (.unary .isUnbound v)) = h.answer false := by
    show h.answer (v == b.undefined) = h.answer false
    rw [beq_eq_false_iff_ne.2 hv]
  exact Program.Runs.call hgoOn

/-! ## Builders at rest -/

namespace ListBuilder

/-- What a builder remembers of the pairs `ps` of its list. -/
structure Holds (lb : ListBuilder) (e : Word) (ps : List Word) : Prop where
  head : lb.head = ps.headD e
  last : lb.last = ps.getLast?
  length : lb.length = ps.length

/-- The list of a builder: the pairs `ps` with the elements `vs`, ending at `e`. -/
structure Lists (lb : ListBuilder) (h : Heap) (e : Word) (ps vs : List Word) : Prop where
  holds : lb.Holds e ps
  segment : h.Segment (ps.headD e) ps vs e
  nodup : ps.Nodup

variable {b : Backend} {lb : ListBuilder} {h : Heap} {e c v : Word} {ps vs : List Word}

theorem Holds.first (hb : lb.Holds e []) :
    Holds { head := c, last := some c, length := lb.length + 1 } e [c] := by
  refine ⟨rfl, rfl, ?_⟩
  simp [hb.length]

theorem Holds.more (hb : lb.Holds e ps) (hne : ps ≠ []) :
    Holds { lb with last := some c, length := lb.length + 1 } e (ps ++ [c]) := by
  refine ⟨?_, by simp, by simp [hb.length]⟩
  cases ps with
  | nil => exact absurd rfl hne
  | cons p ps => exact hb.head

theorem new_runs (b : Backend) (h : Heap) :
    ∃ lb, Program.Runs b ListBuilder.new h lb h [.constant .eol] [] ∧ lb.Lists h b.eol [] [] := by
  have heol : b.perform h (.primitive (.constant .eol)) = h.answer b.eol := rfl
  refine ⟨_, Program.Runs.call_bind heol (.done _ h), ⟨rfl, rfl, rfl⟩, ?_, ?_⟩
  · exact .nil b.eol
  · exact List.nodup_nil

/-- The first element is the new pair alone. -/
theorem push_runs_first (hlast : lb.last = none) (v : Word) :
    Program.Runs b (lb.push v) h
      { head := h.nextHandle, last := some h.nextHandle, length := lb.length + 1 }
      (h.push (.pair v b.eol)) [.constant .eol, .binary .cons v b.eol]
      [.cellAllocated h.size] := by
  have heol : b.perform h (.primitive (.constant .eol)) = h.answer b.eol := rfl
  have hcons : b.perform h (.primitive (.binary .cons v b.eol)) =
      { result := .ok h.nextHandle, heap := h.push (.pair v b.eol),
        events := [.cellAllocated h.size] } := rfl
  refine Program.Runs.call_bind heol (Program.Runs.call_bind hcons ?_)
  rw [hlast]
  exact .done _ _

/-- A further element is the new pair, and the last pair so far is linked to it. -/
theorem push_runs_more {l car cdr : Word} (hlast : lb.last = some l) (v : Word)
    (hl : (h.push (.pair v b.eol)).get? l = some (.pair car cdr)) :
    Program.Runs b (lb.push v) h
      { lb with last := some h.nextHandle, length := lb.length + 1 }
      ((h.push (.pair v b.eol)).setCdr l h.nextHandle)
      [.constant .eol, .binary .cons v b.eol, .binary .setCdr l h.nextHandle]
      [.cellAllocated h.size] := by
  have heol : b.perform h (.primitive (.constant .eol)) = h.answer b.eol := rfl
  have hcons : b.perform h (.primitive (.binary .cons v b.eol)) =
      { result := .ok h.nextHandle, heap := h.push (.pair v b.eol),
        events := [.cellAllocated h.size] } := rfl
  have hset : b.perform (h.push (.pair v b.eol))
      (.primitive (.binary .setCdr l h.nextHandle)) =
      { result := .ok (), heap := (h.push (.pair v b.eol)).setCdr l h.nextHandle } :=
    Heap.performBinary_setCdr hl
  refine Program.Runs.call_bind heol (Program.Runs.call_bind hcons ?_)
  rw [hlast]
  exact Program.Runs.call_bind hset (.done _ _)

/-- Appending an element makes one pair at the next handle and links it behind the last
pair, if there is one. -/
theorem push_runs (hb : lb.Lists h b.eol ps vs) (hsize : h.size < Word.capacity) (v : Word) :
    ∃ lb' h', Program.Runs b (lb.push v) h lb' h'
        (.constant .eol :: .binary .cons v b.eol
          :: (ps.getLast?.map fun l => Call.binary .setCdr l h.nextHandle).toList)
        [.cellAllocated h.size] ∧
      lb'.Lists h' b.eol (ps ++ [h.nextHandle]) (vs ++ [v]) ∧ h'.size = h.size + 1 := by
  rcases hb with ⟨hholds, hsegment, hnodup⟩
  have hfresh : h.nextHandle ∉ ps := fun hp => hsegment.ne_nextHandle hsize hp rfl
  have hnodup' : (ps ++ [h.nextHandle]).Nodup := by
    rw [← List.concat_eq_append]
    exact hnodup.concat hfresh
  have hnew : (h.push (.pair v b.eol)).get? h.nextHandle = some (.pair v b.eol) :=
    Heap.get?_push_nextHandle hsize
  have hsegment' := hsegment.push hsize (.pair v b.eol)
  cases hlast : ps.getLast? with
  | none =>
    obtain rfl := List.getLast?_eq_none_iff.1 hlast
    rcases hsegment.eq_of_nil with ⟨-, rfl⟩
    exact ⟨_, _, push_runs_first hholds.last v,
      ⟨hholds.first, .cons hnew (.nil _), hnodup'⟩, Heap.size_push⟩
  | some l =>
    have hne : ps ≠ [] := by
      rintro rfl
      cases hlast
    rcases hsegment'.get?_of_mem (List.mem_of_getLast? hlast) with ⟨car, cdr, hl⟩
    have hhead : (ps ++ [h.nextHandle]).headD b.eol = ps.headD b.eol := by
      cases ps with
      | nil => exact absurd rfl hne
      | cons p ps => rfl
    have hlink := hsegment'.link hnodup hlast hnew hfresh
    rw [← hhead] at hlink
    exact ⟨_, _, push_runs_more (hholds.last.trans hlast) v hl,
      ⟨hholds.more hne, hlink, hnodup'⟩, by simp⟩

/-! ## The loops -/

/-- Appending given values, and appending an array up to its end, do the same to builder
and heap. They make the same pairs; only the array is scanned. -/
theorem extend_runs (P rest : List Word) (hP : ∀ v ∈ P, v ≠ b.undefined)
    (hb : lb.Lists h b.eol ps vs) (hsize : h.size + P.length ≤ Word.capacity) :
    ∃ lb' h' cs cs' es,
      Program.Runs b (lb.extend P) h lb' h' cs es ∧
      Program.Runs b (lb.extendUntilEnd (P ++ b.undefined :: rest)) h lb' h' cs' es ∧
      lb'.Lists h' b.eol (ps ++ h.nextHandles P.length) (vs ++ P) ∧
      scans cs = [] ∧ scans cs' = P ++ [b.undefined] ∧
      linkings cs = linkingOf b.eol ps.getLast? P (h.nextHandles P.length) ∧
      linkings cs' = linkings cs := by
  induction P generalizing lb h ps vs with
  | nil =>
    refine ⟨lb, h, [], [.unary .isUnbound b.undefined], [], .done _ h, ?_, ?_⟩
    · exact (isUnbound_runs_self b h).bind_done rfl
    · simpa [Heap.nextHandles, scans, linkings, linkingOf, Call.scanned?, Call.isLinking] using hb
  | cons v P ih =>
    have hv : v ≠ b.undefined := hP v List.mem_cons_self
    rw [List.length_cons] at hsize
    rcases push_runs hb (by omega) v with ⟨lb₁, h₁, hpush, hb₁, hsize₁⟩
    obtain ⟨lb', h', cs, cs', es, hgiven, harray, hb', hscan, hscan', hlink, hlink'⟩ :=
      ih (fun w hw => hP w (List.mem_cons_of_mem v hw)) hb₁ (by omega)
    refine ⟨lb', h', _, _, _, hpush.bind hgiven,
      (isUnbound_runs_of_ne hv h).bind (hpush.bind harray), ?_⟩
    rw [List.length_cons, Heap.nextHandles_succ P.length hsize₁]
    refine ⟨by simpa using hb', ?_, ?_, ?_, ?_⟩
    · rw [scans_append, hscan]
      cases ps.getLast? <;> rfl
    · rw [scans_append, scans_append, hscan']
      cases ps.getLast? <;> rfl
    · have hlast : (ps ++ [h.nextHandle]).getLast? = some h.nextHandle := by simp
      rw [linkings_append, hlink, hlast]
      cases ps.getLast? <;> rfl
    · rw [linkings_append, linkings_append, linkings_append, hlink']
      rfl

end ListBuilder

/-! ## The three constructors -/

/-- An array with an end is what stands before the first end, the end, and a rest. -/
theorem exists_eq_before_append {u : Word} {A : List Word} (hu : u ∈ A) :
    ∃ rest, A = A.takeWhile (· ≠ u) ++ u :: rest ∧ ∀ v ∈ A.takeWhile (· ≠ u), v ≠ u := by
  rcases List.eq_append_cons_of_mem hu with ⟨P, rest, rfl, hP⟩
  have hne : ∀ v ∈ P, v ≠ u := by
    rintro v hv rfl
    exact hP hv
  have htake : (P ++ u :: rest).takeWhile (· ≠ u) = P := by
    rw [List.takeWhile_append_of_pos (by simpa using hne)]
    simp
  rw [htake]
  exact ⟨rest, rfl, hne⟩

variable {b : Backend} {h : Heap}

/-- Looking for the end of an array tests the elements up to it, and nothing else. -/
theorem endOfArguments?_runs (P rest : List Word) (hP : ∀ v ∈ P, v ≠ b.undefined)
    (start : Nat) :
    Program.Runs b (endOfArguments? start (P ++ b.undefined :: rest)) h
      (some (start + P.length)) h ((P ++ [b.undefined]).map (.unary .isUnbound)) [] := by
  induction P generalizing start with
  | nil =>
    exact (isUnbound_runs_self b h).bind_done rfl
  | cons v P ih =>
    have hv : v ≠ b.undefined := hP v List.mem_cons_self
    have hrest := ih (fun w hw => hP w (List.mem_cons_of_mem v hw)) (start + 1)
    rw [show start + 1 + P.length = start + (v :: P).length by simp; omega] at hrest
    exact (isUnbound_runs_of_ne hv h).bind hrest

/-- Without an end every element is tested, and the answer is that there is none. -/
theorem endOfArguments?_runs_none (A : List Word) (hA : b.undefined ∉ A) (start : Nat) :
    Program.Runs b (endOfArguments? start A) h none h (A.map (.unary .isUnbound)) [] := by
  induction A generalizing start with
  | nil => exact .done _ h
  | cons v A ih =>
    rw [List.mem_cons, not_or] at hA
    exact (isUnbound_runs_of_ne (Ne.symm hA.1) h).bind (ih hA.2 (start + 1))

/-- Making a list of given values, and of an array up to its end, do the same to the heap.
The list consists of the pairs at the next handles; only the array is scanned. -/
theorem constructions_run (P rest : List Word) (hP : ∀ v ∈ P, v ≠ b.undefined)
    (hsize : h.size + P.length ≤ Word.capacity) :
    ∃ list heap es cs cs',
      Program.Runs b (listOfValues P) h list heap cs es ∧
      Program.Runs b (listOfArguments (P ++ b.undefined :: rest)) h list heap cs' es ∧
      heap.Segment list (h.nextHandles P.length) P b.eol ∧
      scans cs = [] ∧ scans cs' = P ++ [b.undefined] ∧
      linkings cs = linkingOf b.eol none P (h.nextHandles P.length) ∧
      linkings cs' = linkingOf b.eol none P (h.nextHandles P.length) := by
  rcases ListBuilder.new_runs b h with ⟨lb, hnew, hlb⟩
  obtain ⟨lb', heap, cs, cs', es, hgiven, harray, hlists, hscan, hscan', hlink, hlink'⟩ :=
    ListBuilder.extend_runs P rest hP hlb hsize
  have hfinish : Program.Runs b lb'.finish heap lb'.head heap [] [.listBuilt lb'.length] :=
    .emit (.done _ heap)
  refine ⟨lb'.head, heap, _, _, _, hnew.bind (hgiven.bind hfinish),
    hnew.bind (harray.bind hfinish), ?_, ?_, ?_, ?_, ?_⟩
  · rw [hlists.holds.head]
    exact hlists.segment
  · rw [scans_append, List.append_nil, hscan]
    rfl
  · rw [scans_append, List.append_nil, hscan']
    rfl
  · rw [linkings_append, List.append_nil, hlink]
    rfl
  · rw [linkings_append, List.append_nil, hlink', hlink]
    rfl

/-- Looking for the end beforehand adds the tests in front of the construction. -/
theorem listOfTerminated?_runs (P rest : List Word) (hP : ∀ v ∈ P, v ≠ b.undefined)
    {list : Word} {heap : Heap} {cs : List (Call Word)} {es : List Event}
    (hvalues : Program.Runs b (listOfValues P) h list heap cs es) :
    Program.Runs b (listOfTerminated? (P ++ b.undefined :: rest)) h (some list) heap
      ((P ++ [b.undefined]).map (.unary .isUnbound) ++ cs) es := by
  have htake : (P ++ b.undefined :: rest).take (0 + P.length) = P := by simp
  have hrest : Program.Runs b
      (do return some (← listOfValues ((P ++ b.undefined :: rest).take (0 + P.length))))
      h (some list) heap cs es := by
    rw [htake]
    exact hvalues.bind_done rfl
  exact (endOfArguments?_runs P rest hP 0).bind hrest

/-- A run that answered `a` and left the heap `h'`, tested the values `tested` for the end
and made or relinked pairs by the calls `made`. -/
def Run.Shows {α : Type} (r : Run α) (a : α) (h' : Heap) (tested : List Word)
    (made : List (Call Word)) : Prop :=
  r.result = .ok a ∧ r.heap = h' ∧
    scans r.calls.toList = tested ∧ linkings r.calls.toList = made

theorem Program.Runs.shows {α : Type} {p : Program α} {h' : Heap} {a : α}
    {cs : List (Call Word)} {es : List Event} (hp : Program.Runs b p h a h' cs es) :
    (p.run h b).Shows a h' (scans cs) (linkings cs) := by
  rw [hp.run_eq]
  exact ⟨rfl, rfl, rfl, rfl⟩

/-- Whether the end of an array is looked for element by element or beforehand, the list
of the elements `P` before it comes out the same, as the list of the values `P` does: the
same value, heap and pairs, and the same tests up to the end. Without an end the bounded
form tests every element and does nothing else. -/
theorem argument_lists_agree (b : Backend) (h : Heap) (A : List Word) :
    let P := A.takeWhile (· ≠ b.undefined)
    let made := linkingOf b.eol none P (h.nextHandles P.length)
    (b.undefined ∈ A → h.size + P.length ≤ Word.capacity →
      ∃ list heap,
        ((listOfArguments A).run h b).Shows list heap (P ++ [b.undefined]) made ∧
        ((listOfTerminated? A).run h b).Shows (some list) heap (P ++ [b.undefined]) made ∧
        ((listOfValues P).run h b).Shows list heap [] made ∧
        heap.Segment list (h.nextHandles P.length) P b.eol) ∧
    (b.undefined ∉ A →
      (listOfTerminated? A).run h b =
        { result := .ok none, heap := h, calls := (A.map (.unary .isUnbound)).toArray,
          events := #[] }) := by
  intro P made
  constructor
  · intro hmem hsize
    rcases exists_eq_before_append hmem with ⟨rest, hA, hP⟩
    obtain ⟨list, heap, es, cs, cs', hvalues, harguments, hlist, hscans, hscans', hlinks,
      hlinks'⟩ := constructions_run P rest hP hsize
    have hterminated := listOfTerminated?_runs P rest hP hvalues
    rw [← hA] at harguments hterminated
    refine ⟨list, heap, ?_, ?_, ?_, hlist⟩
    · have hshow := harguments.shows
      rwa [hscans', hlinks'] at hshow
    · have hshow := hterminated.shows
      rwa [scans_append, linkings_append, hscans, hlinks, scans_map_isUnbound,
        linkings_map_isUnbound, List.append_nil, List.nil_append] at hshow
    · have hshow := hvalues.shows
      rwa [hscans, hlinks] at hshow
  · intro hmem
    have hscan := endOfArguments?_runs_none (b := b) (h := h) A hmem 0
    have hrun : Program.Runs b (listOfTerminated? A) h none h _ _ :=
      hscan.bind_done rfl
    rw [hrun.run_eq]

/-- An array with two ends in it, on a backend whose empty list is among the elements. -/
theorem argument_lists_agree_at_two_ends :
    ∃ list heap,
      ((listOfArguments [.unspecified, .boolF, .boolT, .eol, .boolT]).run .empty
          { eol := .unspecified, undefined := .boolT }).Shows list heap
        [.unspecified, .boolF, .boolT]
        [.binary .cons .unspecified .unspecified, .binary .cons .boolF .unspecified,
          .binary .setCdr (.handle 0) (.handle 1)] ∧
      ((listOfTerminated? [.unspecified, .boolF, .boolT, .eol, .boolT]).run .empty
          { eol := .unspecified, undefined := .boolT }).Shows (some list) heap
        [.unspecified, .boolF, .boolT]
        [.binary .cons .unspecified .unspecified, .binary .cons .boolF .unspecified,
          .binary .setCdr (.handle 0) (.handle 1)] := by
  obtain ⟨list, heap, harguments, hterminated, -, -⟩ :=
    (argument_lists_agree { eol := .unspecified, undefined := .boolT } .empty
      [.unspecified, .boolF, .boolT, .eol, .boolT]).1 (by decide) (by decide)
  exact ⟨list, heap, harguments, hterminated⟩

end ProxyForge

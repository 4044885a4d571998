import ScriptureMarkup.Usx.Position
import Mathlib.Data.List.Basic

namespace ScriptureMarkup.Usx

/-- What a position may be asked for. -/
inductive Request
  | book (code : String)
  | chapter (number : UInt32)
  | verse (number : String)
  | closeAll
  deriving DecidableEq

/-- A request with the dialect in which it is made. Each has a dialect of its own. -/
structure Call where
  dialect : Dialect
  request : Request
  deriving DecidableEq

/-- The id that a call gives back, if it goes to a chapter or a verse, and what it writes. -/
structure Reply where
  id : Option String
  output : Output
  deriving DecidableEq

/-- The elements that come as milestones. -/
inductive Element
  | chapter
  | verse
  deriving DecidableEq

def Element.name : Element → String
  | .chapter => "chapter"
  | .verse => "verse"

/-- The id that is open of an element. -/
def Position.slot (position : Position) : Element → Option String
  | .chapter => position.openChapter
  | .verse => position.openVerse

namespace Request

/-- Whether a request goes to a new chapter or a new verse. -/
def enters : Element → Request → Bool
  | .chapter, .chapter _ | .verse, .verse _ => true
  | _, _ => false

/-- Whether a request closes what is open of an element. Every one closes the verse, and every one but
that for a verse the chapter. -/
def closes : Element → Request → Bool
  | .chapter, .verse _ => false
  | _, _ => true

theorem closes_of_enters {element : Element} {request : Request} (enters : request.enters element = true) :
    request.closes element = true := by
  cases element <;> cases request <;> first | rfl | cases enters

theorem closes_verse (request : Request) : request.closes .verse = true := rfl

end Request

namespace Call

def serve (call : Call) (position : Position) : Position × Reply :=
  match call.request with
  | .book code =>
    let (later, output) := position.enterBook call.dialect code
    (later, ⟨none, output⟩)
  | .chapter number =>
    let (later, output, id) := position.enterChapter call.dialect number
    (later, ⟨some id, output⟩)
  | .verse number =>
    let (later, output, id) := position.enterVerse call.dialect number
    (later, ⟨some id, output⟩)
  | .closeAll =>
    let (later, output) := position.closeAll call.dialect
    (later, ⟨none, output⟩)

/-- Whether a call leaves a milestone of an element open. -/
def opens (element : Element) (call : Call) : Bool := call.dialect.pairsMilestones && call.request.enters element

/-- What is open after a call: its own id if it opens one, nothing if it closes, and else what was open. -/
theorem slot_serve (element : Element) (call : Call) (position : Position) :
    (call.serve position).1.slot element =
      if call.opens element then (call.serve position).2.id
      else if call.request.closes element then none else position.slot element := by
  obtain ⟨dialect, request⟩ := call
  cases request <;> cases element <;> cases dialect <;> rfl

theorem closes_of_opens {element : Element} {call : Call} (opens : call.opens element = true) :
    call.request.closes element = true :=
  Request.closes_of_enters (Bool.and_eq_true_iff.mp opens).2

end Call

/-- Where calls lead that are made one after the other. -/
def serveAll (position : Position) (calls : List Call) : Position :=
  calls.foldl (fun position call => (call.serve position).1) position

/-- The replies to calls that are made one after the other. -/
def replies (position : Position) : List Call → List Reply
  | [] => []
  | call :: calls => (call.serve position).2 :: replies (call.serve position).1 calls

theorem getElem?_replies (position : Position) (calls : List Call) (k : Nat) :
    (replies position calls)[k]? =
      calls[k]?.map fun call => (call.serve (serveAll position (calls.take k))).2 := by
  induction calls generalizing position k with
  | nil => rfl
  | cons call calls ih =>
    cases k with
    | zero => rfl
    | succ k =>
      rw [replies, List.getElem?_cons_succ, List.getElem?_cons_succ, ih, List.take_succ_cons]
      rfl

theorem exists_serve_of_mem_replies {position : Position} {calls : List Call} {reply : Reply}
    (member : reply ∈ replies position calls) : ∃ call there, reply = (Call.serve call there).2 := by
  obtain ⟨k, found⟩ := List.mem_iff_getElem?.mp member
  rw [getElem?_replies, Option.map_eq_some_iff] at found
  obtain ⟨call, _, rfl⟩ := found
  exact ⟨call, _, rfl⟩

theorem serveAll_take_succ {position : Position} {calls : List Call} {k : Nat} {call : Call}
    (made : calls[k]? = some call) :
    serveAll position (calls.take (k + 1)) = (call.serve (serveAll position (calls.take k))).1 := by
  rw [List.take_add_one, made, serveAll, List.foldl_append]
  rfl

section History

variable {calls : List Call} {element : Element} {id : String} {i k : Nat}

/-- Of some calls on a new position, the one with a given number opens a milestone with the id that it gives
back. -/
def Opens (calls : List Call) (element : Element) (i : Nat) (id : String) : Prop :=
  ∃ call reply, calls[i]? = some call ∧ (replies .start calls)[i]? = some reply ∧
    call.opens element = true ∧ reply.id = some id

/-- No call between two others closes what is open of an element. -/
def Untouched (calls : List Call) (element : Element) (i k : Nat) : Prop :=
  ∀ j call, i < j → j < k → calls[j]? = some call → call.request.closes element = false

theorem opens_iff {call : Call} (made : calls[i]? = some call) :
    Opens calls element i id ↔
      call.opens element = true ∧ (call.serve (serveAll .start (calls.take i))).2.id = some id := by
  unfold Opens
  rw [getElem?_replies, made]
  simp

/-- Of some calls, `k` is the first behind `i` that closes what is open of an element. -/
structure ClosesFirst (calls : List Call) (element : Element) (i k : Nat) : Prop where
  behind : i < k
  untouched : Untouched calls element i k
  closes : ∃ call, calls[k]? = some call ∧ call.request.closes element = true

theorem ClosesFirst.unique {other : Nat} (first : ClosesFirst calls element i k)
    (otherFirst : ClosesFirst calls element i other) : other = k := by
  obtain ⟨call, made, closes⟩ := first.closes
  obtain ⟨otherCall, otherMade, otherCloses⟩ := otherFirst.closes
  rcases Nat.lt_trichotomy other k with earlier | same | later
  · have kept := first.untouched other otherCall otherFirst.behind earlier otherMade
    rw [otherCloses] at kept
    cases kept
  · exact same
  · have kept := otherFirst.untouched k call first.behind later made
    rw [closes] at kept
    cases kept

/-- No call goes to a new chapter or verse before what is open of it has been closed. -/
theorem ClosesFirst.enters_between (first : ClosesFirst calls element i k) {j : Nat} {call : Call} (behind : i < j)
    (earlier : j < k) (made : calls[j]? = some call) : call.request.enters element = false := by
  have kept := first.untouched j call behind earlier made
  cases enters : call.request.enters element with
  | false => rfl
  | true =>
    rw [Request.closes_of_enters enters] at kept
    cases kept

theorem ClosesFirst.not_opens_between (first : ClosesFirst calls element i k) {j : Nat} (behind : i < j)
    (earlier : j < k) : ¬Opens calls element j id := by
  rintro ⟨call, _, made, _, opening, _⟩
  have kept := first.untouched j call behind earlier made
  rw [Call.closes_of_opens opening] at kept
  cases kept

/-- What one call closes was opened by one call. -/
theorem ClosesFirst.opening_unique {other : Nat} {otherId : String} (first : ClosesFirst calls element i k)
    (otherFirst : ClosesFirst calls element other k) (opens : Opens calls element i id)
    (otherOpens : Opens calls element other otherId) : other = i := by
  rcases Nat.lt_trichotomy other i with earlier | same | later
  · exact absurd opens (otherFirst.not_opens_between earlier first.behind)
  · exact same
  · exact absurd otherOpens (first.not_opens_between later otherFirst.behind)

theorem untouched_succ {call : Call} (made : calls[k]? = some call) (before : i < k) :
    Untouched calls element i (k + 1) ↔ call.request.closes element = false ∧ Untouched calls element i k := by
  constructor
  · intro untouched
    exact ⟨untouched k call before (Nat.lt_succ_self k) made,
      fun j other behind earlier => untouched j other behind (Nat.lt_succ_of_lt earlier)⟩
  · rintro ⟨kept, untouched⟩ j other behind earlier found
    rcases Nat.lt_succ_iff_lt_or_eq.mp earlier with between | rfl
    · exact untouched j other behind between found
    · cases made.symm.trans found
      exact kept

/-- What is open after one more call has been opened by that call, or before it if it closes nothing. -/
theorem exists_opens_succ {call : Call} (made : calls[k]? = some call) :
    (∃ i, i < k + 1 ∧ Opens calls element i id ∧ Untouched calls element i (k + 1)) ↔
      (call.opens element = true ∧ (call.serve (serveAll .start (calls.take k))).2.id = some id) ∨
        (call.request.closes element = false ∧
          ∃ i, i < k ∧ Opens calls element i id ∧ Untouched calls element i k) := by
  constructor
  · rintro ⟨i, before, opens, untouched⟩
    rcases Nat.lt_succ_iff_lt_or_eq.mp before with earlier | rfl
    · obtain ⟨kept, untouched⟩ := (untouched_succ made earlier).mp untouched
      exact .inr ⟨kept, i, earlier, opens, untouched⟩
    · exact .inl ((opens_iff made).mp opens)
  · rintro (opens | ⟨kept, i, earlier, opens, untouched⟩)
    · refine ⟨k, Nat.lt_succ_self k, (opens_iff made).mpr opens, fun j _ behind earlier => ?_⟩
      omega
    · exact ⟨i, Nat.lt_succ_of_lt earlier, opens, (untouched_succ made earlier).mpr ⟨kept, untouched⟩⟩

/-- An id is open after some calls exactly if one of them has opened it and none behind that one closes
the element. -/
theorem slot_serveAll_iff (bound : k ≤ calls.length) :
    (serveAll .start (calls.take k)).slot element = some id ↔
      ∃ i, i < k ∧ Opens calls element i id ∧ Untouched calls element i k := by
  induction k with
  | zero => cases element <;> simp [serveAll, Position.slot, Position.start]
  | succ k ih =>
    obtain ⟨call, made⟩ : ∃ call, calls[k]? = some call := ⟨_, List.getElem?_eq_getElem bound⟩
    rw [exists_opens_succ made, ← ih (Nat.le_of_lt bound), serveAll_take_succ made, Call.slot_serve]
    -- a call that opens closes as well, so only one that does neither leaves the slot to those before it
    by_cases opening : call.opens element = true
    · have closing := Call.closes_of_opens opening
      simp [opening, closing]
    · cases closing : call.request.closes element <;> simp [opening]

end History

end ScriptureMarkup.Usx

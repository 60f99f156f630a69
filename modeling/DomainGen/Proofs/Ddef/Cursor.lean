import DomainGen.Proofs.Ddef.Programs
import Mathlib.Order.Nat

/-!
# Reading by an index

A list of tokens can also be read by an index into it, behind whose last token an entry marks the
end.  Programs of this kind can go wrong in ways that those which take tokens off a list cannot:
the index can leave the list, and a loop need not end.  A cursor is such a program.  It keeps a
trail of what happens on its way.  Its loops have a limit, and there is no result if one of them
gets there; a loop that ends is one that does not get to a limit that is large enough.

`Tracks` says that a cursor does at an index what a program that takes tokens does on the tokens
from there on, that it stays below the limit, and that the trail it leaves is orderly.  There is a
rule for each way of putting cursors together; the one for loops asks that a loop takes tokens
whenever it goes round (`Tracks.repeatedly`).
-/

namespace DomainGen.Ddef

/-! ## Lists with an end -/

/-- An entry of a list that is read by an index. -/
inductive Slot where
  | token (token : Token)
  | finish (pos : Position)
  deriving Repr, DecidableEq

/-- The place of an entry. -/
def Slot.pos : Slot → Position
  | .token found => found.pos
  | .finish place => place

/-- The tokens and, behind them, the only entry that marks the end. -/
def TokenList.slots (list : TokenList) : List Slot :=
  list.tokens.map .token ++ [.finish list.finish]

/-- The entry in front of some tokens. -/
def slotOf (finish : Position) : List Token → Slot
  | [] => .finish finish
  | token :: _ => .token token

theorem TokenList.length_slots (list : TokenList) :
    list.slots.length = list.tokens.length + 1 := by
  simp [slots]

theorem TokenList.length_lt_slots_add (list : TokenList) (more : Nat) :
    list.tokens.length < list.slots.length + more := by
  rw [length_slots]
  omega

theorem TokenList.getElem?_slots (list : TokenList) {index : Nat}
    (inside : index ≤ list.tokens.length) :
    list.slots[index]? = some (slotOf list.finish (list.tokens.drop index)) := by
  rcases Nat.lt_or_eq_of_le inside with before | rfl
  · rw [List.drop_eq_getElem_cons before, slotOf, slots, List.getElem?_append_left (by simpa),
      List.getElem?_map, List.getElem?_eq_getElem before]
    rfl
  · simp [slots, slotOf]

/-! ## Cursors -/

/-- What happens while a list is read by an index. -/
inductive Event where
  /-- The entry at an index was looked up. -/
  | looked (index : Nat)
  /-- A loop went round: where it started to, and where it goes on. -/
  | again (start next : Nat)
  /-- The elements of a package are read from an index on. -/
  | inner (start : Nat)
  deriving Repr, DecidableEq

/-- Where the index stood when something happened. -/
def Event.index : Event → Nat
  | looked index => index
  | again _ next => next
  | inner start => start

/-- Where reading stands, and what has happened so far. -/
structure Tape where
  index : Nat
  events : List Event := []
  deriving Repr, DecidableEq

/-- Why reading ends early. -/
inductive Halt where
  /-- There is no entry at the index. -/
  | outOfRange
  | refused (error : SyntaxError)
  deriving Repr, DecidableEq

/-- A program that reads a list by an index, if it stays below a limit. -/
abbrev Cursor (α : Type) := ExceptT Halt (StateT Tape Option) α

namespace Cursor

variable (slots : List Slot) {α β σ : Type}

/-- What a cursor yields, and where it leaves the tape; nothing if it gets to its limit. -/
def run (cursor : Cursor α) (tape : Tape) : Option (Except Halt α × Tape) := cursor tape

/-- The index. -/
def index : Cursor Nat := do return (← get).index

/-- Put on record that something happened. -/
def note (event : Event) : Cursor Unit :=
  modify fun tape => { tape with events := tape.events ++ [event] }

/-- Look up the entry at the index. -/
def peek : Cursor Slot := do
  let index ← index
  match slots[index]? with
  | none => throw .outOfRange
  | some slot => do
      note (.looked index)
      return slot

/-- Look up the entry at the index, and go on to the next unless this is the end. -/
def advance : Cursor Slot := do
  let slot ← peek slots
  match slot with
  | .token _ => modify fun tape => { tape with index := tape.index + 1 }
  | .finish _ => pure ()
  return slot

/-- The place of the entry at the index. -/
def place : Cursor Position := do
  let slot ← peek slots
  return slot.pos

/-- Go on to the next entry unless this is the end, and tell the place of this one. -/
def skip : Cursor Position := do
  let slot ← advance slots
  return slot.pos

/-- Whether a certain token is next. -/
def nextIs (lexeme : Lexeme) : Cursor Bool := do
  match ← peek slots with
  | .token token => return token.lexeme = lexeme
  | .finish _ => return false

/-- Refuse the entry that is next. -/
def refuse (wanted : Expectation) : Cursor α := do
  match ← peek slots with
  | .token token => throw (.refused ⟨.unexpected wanted (some token.lexeme), token.pos⟩)
  | .finish pos => throw (.refused ⟨.unexpected wanted none, pos⟩)

/-- There is no result. -/
def exhausted : Cursor α := fun _ => none

/-- Go round and round until a value is found, fewer times than the limit. -/
def repeatedly (round : σ → Cursor (σ ⊕ α)) : Nat → σ → Cursor α
  | 0, _ => exhausted
  | limit + 1, state => do
      let start ← index
      match ← round state with
      | .inr value => return value
      | .inl state => do
          note (.again start (← index))
          repeatedly round limit state

/-! ### Running -/

section Run

variable (tape : Tape)

/-- A cursor that halts ends a sequence. -/
theorem run_bind (first : Cursor α) (second : α → Cursor β) :
    (first >>= second).run tape =
      (first.run tape).bind fun (outcome, tape) =>
        match outcome with
        | .ok value => (second value).run tape
        | .error halt => some (.error halt, tape) := by
  change (first tape).bind _ = (first tape).bind _
  congr 1
  funext ⟨outcome, tape⟩
  cases outcome with
  | ok value => rfl
  | error halt => rfl

theorem run_index : index.run tape = some (.ok tape.index, tape) := rfl

theorem run_note (event : Event) :
    (note event).run tape = some (.ok (), { tape with events := tape.events ++ [event] }) := rfl

end Run

variable {list : TokenList} {start : Nat} (inside : start ≤ list.tokens.length)
  (events : List Event)
include inside

theorem run_peek : (peek list.slots).run ⟨start, events⟩ =
    some (.ok (slotOf list.finish (list.tokens.drop start)),
      ⟨start, events ++ [.looked start]⟩) := by
  rw [peek, run_bind, run_index]
  simp only [Option.bind_some, list.getElem?_slots inside]
  rfl

theorem run_nextIs (lexeme : Lexeme) : ∃ found,
    (nextIs list.slots lexeme).run ⟨start, events⟩ =
      some (.ok found, ⟨start, events ++ [.looked start]⟩) ∧
    (found = true ↔ Starts lexeme (list.tokens.drop start)) := by
  rw [nextIs, run_bind, run_peek inside]
  cases list.tokens.drop start with
  | nil => exact ⟨false, rfl, by simp⟩
  | cons token rest => exact ⟨decide (token.lexeme = lexeme), rfl, by simp⟩

end Cursor

theorem Starts.exists_eq_cons {lexeme : Lexeme} {tokens : List Token}
    (starts : Starts lexeme tokens) : ∃ pos rest, tokens = ⟨lexeme, pos⟩ :: rest := by
  cases tokens with
  | nil => exact absurd starts (starts_nil lexeme)
  | cons token rest =>
      rw [starts_cons] at starts
      subst starts
      exact ⟨token.pos, rest, rfl⟩

theorem ifNext_of_not_starts {α : Type} {lexeme : Lexeme} {found : Position → Reader α}
    {other : Reader α} {tokens : List Token} (absent : ¬ Starts lexeme tokens) :
    ifNext lexeme found other tokens = other tokens := by
  cases tokens with
  | nil => rfl
  | cons token rest =>
      rw [starts_cons] at absent
      exact if_neg absent

/-- Go on in one way if a certain token is next, without taking it, and otherwise in the other. -/
def ahead {α : Type} (lexeme : Lexeme) (found other : Reader α) : Reader α :=
  fun tokens => ifNext lexeme (fun _ _ => found tokens) other tokens

theorem ahead_of_starts {α : Type} {lexeme : Lexeme} {found other : Reader α}
    {tokens : List Token} (starts : Starts lexeme tokens) :
    ahead lexeme found other tokens = found tokens := by
  obtain ⟨pos, rest, rfl⟩ := starts.exists_eq_cons
  exact if_pos rfl

/-- Take the next token, whatever it is, and tell its place. -/
def skip (finish : Position) : Reader Position :=
  fun tokens => .ok (startOf finish tokens, tokens.tail)

theorem exists_of_drop_eq_cons {tokens rest : List Token} {token : Token} {start : Nat}
    (found : tokens.drop start = token :: rest) :
    start + 1 ≤ tokens.length ∧ tokens.drop (start + 1) = rest := by
  constructor
  · by_contra outside
    rw [List.drop_eq_nil_of_le (by omega)] at found
    cases found
  · rw [← List.tail_drop, found, List.tail_cons]

theorem Cursor.run_advance_token {list : TokenList} {start : Nat} {token : Token}
    {rest : List Token} (found : list.tokens.drop start = token :: rest) (events : List Event) :
    (advance list.slots).run ⟨start, events⟩ =
      some (.ok (.token token), ⟨start + 1, events ++ [.looked start]⟩) := by
  have inside := (exists_of_drop_eq_cons found).1
  rw [advance, run_bind, run_peek (Nat.le_of_succ_le inside), found]
  rfl

theorem Cursor.run_advance_finish {list : TokenList} {start : Nat}
    (inside : start ≤ list.tokens.length) (ended : list.tokens.drop start = [])
    (events : List Event) :
    (advance list.slots).run ⟨start, events⟩ =
      some (.ok (.finish list.finish), ⟨start, events ++ [.looked start]⟩) := by
  rw [advance, run_bind, run_peek inside, ended]
  rfl

/-! ## Orderly trails -/

/-- A trail from one index to another.  The index never goes back, a loop goes round only if that
took tokens, and the elements of packages are read only behind `outer`. -/
structure Orderly (outer start stop : Nat) (trail : List Event) : Prop where
  ordered : trail.Pairwise (·.index ≤ ·.index)
  inside : ∀ event ∈ trail, start ≤ event.index ∧ event.index ≤ stop
  proceeds : ∀ own next, .again own next ∈ trail → own < next
  later : ∀ own, .inner own ∈ trail → outer < own

namespace Orderly

variable {outer start middle stop : Nat} {trail further : List Event}

theorem nil : Orderly outer start stop [] := ⟨.nil, nofun, nofun, nofun⟩

theorem looked (forward : start ≤ stop) : Orderly outer start stop [.looked start] := by
  constructor
  · exact List.pairwise_singleton _ _
  · simp [Event.index, forward]
  · simp
  · simp

theorem again (proceeds : start < stop) : Orderly outer stop stop [.again start stop] := by
  constructor
  · exact List.pairwise_singleton _ _
  · simp [Event.index]
  · rintro own next member
    cases List.mem_singleton.mp member
    exact proceeds
  · simp

theorem inner (later : outer < start) : Orderly outer start start [.inner start] := by
  constructor
  · exact List.pairwise_singleton _ _
  · simp [Event.index]
  · simp
  · rintro own member
    cases List.mem_singleton.mp member
    exact later

theorem append (one : Orderly outer start middle trail) (two : Orderly outer middle stop further)
    (first : start ≤ middle) (second : middle ≤ stop) :
    Orderly outer start stop (trail ++ further) := by
  constructor
  · refine List.pairwise_append.mpr ⟨one.ordered, two.ordered, fun event member other after => ?_⟩
    exact (one.inside event member).2.trans (two.inside other after).1
  · intro event member
    rcases List.mem_append.mp member with member | member
    · exact ⟨(one.inside event member).1, (one.inside event member).2.trans second⟩
    · exact ⟨first.trans (two.inside event member).1, (two.inside event member).2⟩
  · intro own next member
    exact (List.mem_append.mp member).elim (one.proceeds own next) (two.proceeds own next)
  · intro own member
    exact (List.mem_append.mp member).elim (one.later own) (two.later own)

theorem mono {own : Nat} (orderly : Orderly own start stop trail) (within : outer ≤ own) :
    Orderly outer start stop trail :=
  ⟨orderly.ordered, orderly.inside, orderly.proceeds,
    fun index member => within.trans_lt (orderly.later index member)⟩

end Orderly

/-! ## Cursors that do as readers do -/

section Tracks

variable {α β σ : Type}

/-- What a program that takes tokens yields, as a cursor yields it. -/
def outcomeOf : Except SyntaxError (α × List Token) → Except Halt α
  | .ok (value, _) => .ok value
  | .error error => .error (.refused error)

theorem outcomeOf_ne_outOfRange (result : Except SyntaxError (α × List Token)) :
    outcomeOf result ≠ .error .outOfRange := by
  cases result with
  | error error => nofun
  | ok result => nofun

/-- A cursor goes from one index to another and leaves a trail, and yields what a program yields
that takes the tokens.  It may leave some tokens in front of the rest that the program has
taken. -/
structure Goes (list : TokenList) (outer : Nat) (unread : α → List Lexeme) (cursor : Cursor α)
    (read : Reader α) (start stop : Nat) (trail : List Event) : Prop where
  le : start ≤ stop
  inside : stop ≤ list.tokens.length
  orderly : Orderly outer start stop trail
  run_eq : ∀ events, cursor.run ⟨start, events⟩ =
    some (outcomeOf (read (list.tokens.drop start)), ⟨stop, events ++ trail⟩)
  rest : ∀ value rest, read (list.tokens.drop start) = .ok (value, rest) →
    ∃ front, front.map (·.lexeme) = unread value ∧ list.tokens.drop stop = front ++ rest

namespace Goes

variable {list : TokenList} {outer start stop : Nat} {unread : α → List Lexeme} {first : Cursor α}
  {readFirst : Reader α} {trail : List Event}

theorem run_ok (goes : Goes list outer unread first readFirst start stop trail) {value : α}
    {rest : List Token} (read : readFirst (list.tokens.drop start) = .ok (value, rest))
    (events : List Event) :
    first.run ⟨start, events⟩ = some (.ok value, ⟨stop, events ++ trail⟩) := by
  rw [goes.run_eq, read]
  rfl

theorem drop_eq (goes : Goes list outer unread first readFirst start stop trail) {value : α}
    {rest : List Token} (read : readFirst (list.tokens.drop start) = .ok (value, rest))
    (nothing : unread value = []) : list.tokens.drop stop = rest := by
  obtain ⟨front, left, same⟩ := goes.rest value rest read
  rw [nothing, List.map_eq_nil_iff] at left
  rw [same, left, List.nil_append]

/-- Nothing comes after what fails. -/
theorem fails (goes : Goes list outer unread first readFirst start stop trail)
    {error : SyntaxError} (read : readFirst (list.tokens.drop start) = .error error)
    (further : β → List Lexeme) (second : α → Cursor β) (readSecond : α → Reader β) :
    Goes list outer further (first >>= second) (readFirst >>= readSecond) start stop trail := by
  refine ⟨goes.le, goes.inside, goes.orderly, fun events => ?_, fun value rest found => ?_⟩
  · rw [Cursor.run_bind, goes.run_eq, bind_apply, read]
    rfl
  · rw [bind_apply, read] at found
    cases found

end Goes

/-- Started at an index inside the list, a cursor does as a program that takes the tokens. -/
def Tracks (list : TokenList) (outer : Nat) (unread : α → List Lexeme) (cursor : Cursor α)
    (read : Reader α) (start : Nat) : Prop :=
  start ≤ list.tokens.length →
    ∃ stop trail, Goes list outer unread cursor read start stop trail

namespace Tracks

variable {list : TokenList} {outer start : Nat} {unread : β → List Lexeme}

theorem mono {inner : Nat} {cursor : Cursor β} {read : Reader β}
    (tracks : Tracks list inner unread cursor read start) (within : outer ≤ inner) :
    Tracks list outer unread cursor read start := by
  intro inside
  obtain ⟨stop, trail, goes⟩ := tracks inside
  exact ⟨stop, trail, goes.le, goes.inside, goes.orderly.mono within, goes.run_eq, goes.rest⟩

theorem congr {cursor : Cursor β} {read other : Reader β}
    (tracks : Tracks list outer unread cursor read start)
    (same : other (list.tokens.drop start) = read (list.tokens.drop start)) :
    Tracks list outer unread cursor other start := by
  intro inside
  obtain ⟨stop, trail, goes⟩ := tracks inside
  exact ⟨stop, trail, goes.le, goes.inside, goes.orderly, same ▸ goes.run_eq, same ▸ goes.rest⟩

theorem pure (value : β) (nothing : unread value = []) :
    Tracks list outer unread (pure value) (pure value) start := by
  intro inside
  refine ⟨start, [], Nat.le_refl _, inside, .nil, fun events => ?_, fun other rest found => ?_⟩
  · rw [List.append_nil]
    rfl
  · cases found
    exact ⟨[], nothing.symm, rfl⟩

/-- A cursor after something that happens without a counterpart. -/
theorem after {first : Cursor α} {value : α} {next : α → Cursor β} {middle : Nat}
    {trail : List Event} {read other : Reader β}
    (ran : ∀ events, first.run ⟨start, events⟩ = some (.ok value, ⟨middle, events ++ trail⟩))
    (orderly : Orderly outer start middle trail) (forward : start ≤ middle)
    (inside : middle ≤ list.tokens.length)
    (same : read (list.tokens.drop start) = other (list.tokens.drop middle))
    (tracks : Tracks list outer unread (next value) other middle) :
    Tracks list outer unread (first >>= next) read start := by
  intro _
  obtain ⟨stop, further, goes⟩ := tracks inside
  refine ⟨stop, trail ++ further, forward.trans goes.le, goes.inside,
    orderly.append goes.orderly forward goes.le, fun events => ?_, ?_⟩
  · simp only [Cursor.run_bind, ran, Option.bind_some, goes.run_eq, same, List.append_assoc]
  · rw [same]
    exact goes.rest

/-- One cursor after another. -/
theorem bind {first : Cursor α} {second : α → Cursor β} {readFirst : Reader α}
    {readSecond : α → Reader β} (one : Tracks list outer (fun _ => []) first readFirst start)
    (two : ∀ value middle, start ≤ middle →
      readFirst (list.tokens.drop start) = .ok (value, list.tokens.drop middle) →
        Tracks list outer unread (second value) (readSecond value) middle) :
    Tracks list outer unread (first >>= second) (readFirst >>= readSecond) start := by
  intro inside
  obtain ⟨middle, trail, goes⟩ := one inside
  cases read : readFirst (list.tokens.drop start) with
  | error error => exact ⟨middle, trail, goes.fails read unread second readSecond⟩
  | ok result =>
      obtain ⟨value, rest⟩ := result
      obtain rfl := goes.drop_eq read rfl
      refine after (goes.run_ok read) goes.orderly goes.le goes.inside ?_
        (two value middle goes.le read) inside
      rw [bind_apply, read]

theorem refuse (wanted : Expectation) :
    Tracks list outer unread (Cursor.refuse list.slots wanted) (refuse list.finish wanted)
      start := by
  intro inside
  refine ⟨start, [.looked start], Nat.le_refl _, inside, .looked (Nat.le_refl _),
    fun events => ?_, nofun⟩
  rw [Cursor.refuse, Cursor.run_bind, Cursor.run_peek inside, Ddef.refuse]
  cases list.tokens.drop start with
  | nil => rfl
  | cons token rest => rfl

/-- Going by the index. -/
theorem index {next : Nat → Cursor β} {read : Reader β}
    (tracks : Tracks list outer unread (next start) read start) :
    Tracks list outer unread (Cursor.index >>= next) read start := by
  intro inside
  have ran (events : List Event) :
      Cursor.index.run ⟨start, events⟩ = some (.ok start, ⟨start, events ++ []⟩) := by
    rw [List.append_nil]
    rfl
  exact after ran .nil (Nat.le_refl _) inside rfl tracks inside

/-- Going by the entry that is next. -/
theorem peek {next : Slot → Cursor β} {read : Reader β}
    (tracks : Tracks list outer unread (next (slotOf list.finish (list.tokens.drop start))) read
      start) : Tracks list outer unread (Cursor.peek list.slots >>= next) read start := by
  intro inside
  exact after (Cursor.run_peek inside) (.looked (Nat.le_refl _)) (Nat.le_refl _) inside rfl
    tracks inside

/-- Going by whether a certain token is next. -/
theorem nextIs {lexeme : Lexeme} {next : Bool → Cursor β} {read : Reader β}
    (yes : Starts lexeme (list.tokens.drop start) →
      Tracks list outer unread (next true) read start)
    (no : ¬ Starts lexeme (list.tokens.drop start) →
      Tracks list outer unread (next false) read start) :
    Tracks list outer unread (Cursor.nextIs list.slots lexeme >>= next) read start := by
  intro inside
  by_cases starts : Starts lexeme (list.tokens.drop start)
  · refine after (fun events => ?_) (.looked (Nat.le_refl _)) (Nat.le_refl _) inside rfl
      (yes starts) inside
    obtain ⟨found, ran, found_iff⟩ := Cursor.run_nextIs inside events lexeme
    rw [ran, found_iff.mpr starts]
  · refine after (fun events => ?_) (.looked (Nat.le_refl _)) (Nat.le_refl _) inside rfl
      (no starts) inside
    obtain ⟨found, ran, found_iff⟩ := Cursor.run_nextIs inside events lexeme
    rw [ran, Bool.eq_false_iff.mpr (found_iff.not.mpr starts)]

/-- Taking the token that is next. -/
theorem take {token : Token} {rest : List Token} (found : list.tokens.drop start = token :: rest)
    {next : Slot → Cursor β} {read other : Reader β} (same : read (token :: rest) = other rest)
    (tracks : Tracks list outer unread (next (.token token)) other (start + 1)) :
    Tracks list outer unread (Cursor.advance list.slots >>= next) read start := by
  obtain ⟨within, left⟩ := exists_of_drop_eq_cons found
  refine after (Cursor.run_advance_token found) (.looked (Nat.le_succ _)) (Nat.le_succ _) within
    ?_ tracks
  rw [found, left, same]

theorem place :
    Tracks list outer (fun _ => []) (Cursor.place list.slots) (nextPlace list.finish) start := by
  refine peek (Tracks.congr (pure _ rfl) ?_)
  cases list.tokens.drop start with
  | nil => rfl
  | cons token rest => rfl

theorem skip :
    Tracks list outer (fun _ => []) (Cursor.skip list.slots) (skip list.finish) start := by
  cases found : list.tokens.drop start with
  | nil =>
      intro inside
      refine after (Cursor.run_advance_finish inside found) (.looked (Nat.le_refl _))
        (Nat.le_refl _) inside ?_ (pure list.finish rfl) inside
      rw [found]
      rfl
  | cons token rest => exact take found rfl (pure token.pos rfl)

/-- Taking a certain token if it is next. -/
theorem branch {lexeme : Lexeme} {found : Slot → Cursor β} {other : Cursor β}
    {readFound : Position → Reader β} {readOther : Reader β}
    (yes : ∀ pos, Tracks list outer unread (found (.token ⟨lexeme, pos⟩)) (readFound pos)
      (start + 1))
    (no : Tracks list outer unread other readOther start) :
    Tracks list outer unread
      (Cursor.nextIs list.slots lexeme >>= fun isNext =>
        if isNext = true then Cursor.advance list.slots >>= found else other)
      (ifNext lexeme readFound readOther) start := by
  refine nextIs (fun starts => ?_) (fun absent => ?_)
  · obtain ⟨pos, rest, left⟩ := starts.exists_eq_cons
    exact take left (if_pos rfl) (yes pos)
  · exact no.congr (ifNext_of_not_starts absent)

/-- Taking a certain token if it is next, unless one was seen before. -/
theorem branchUnless {seen : Bool} {lexeme : Lexeme} {found : Slot → Cursor β} {other : Cursor β}
    {readFound : Position → Reader β} {readOther : Reader β}
    (yes : ∀ pos, Tracks list outer unread (found (.token ⟨lexeme, pos⟩)) (readFound pos)
      (start + 1))
    (no : Tracks list outer unread other readOther start) :
    Tracks list outer unread
      (Cursor.nextIs list.slots lexeme >>= fun isNext =>
        if (isNext && !seen) = true then Cursor.advance list.slots >>= found else other)
      ((if seen then id else ifNext lexeme readFound) readOther) start := by
  cases seen with
  | false =>
      simp only [Bool.not_false, Bool.and_true]
      exact branch yes no
  | true =>
      simp only [Bool.not_true, Bool.and_false]
      exact nextIs (fun _ => no) (fun _ => no)

/-- Leaving a certain token where it is if it is next. -/
theorem leave {lexeme : Lexeme} {value : β} {other : Cursor β} {readOther : Reader β}
    (left : unread value = [lexeme]) (no : Tracks list outer unread other readOther start) :
    Tracks list outer unread
      (Cursor.nextIs list.slots lexeme >>= fun isNext =>
        if isNext = true then Pure.pure value else other)
      (ifNext lexeme (fun _ => Pure.pure value) readOther) start := by
  refine nextIs (fun starts inside => ?_) (fun absent => no.congr (ifNext_of_not_starts absent))
  obtain ⟨pos, rest, found⟩ := starts.exists_eq_cons
  have taken : ifNext lexeme (fun _ => (Pure.pure value : Reader β)) readOther
      (list.tokens.drop start) = .ok (value, rest) := by
    rw [found]
    exact if_pos rfl
  refine ⟨start, [], Nat.le_refl _, inside, .nil, fun events => ?_, fun other behind same => ?_⟩
  · rw [taken, List.append_nil]
    rfl
  · rw [taken] at same
    cases same
    exact ⟨[⟨lexeme, pos⟩], left.symm, found⟩

/-- Going by whether a certain token is next, and leaving it where it is. -/
theorem ahead {lexeme : Lexeme} {found other : Cursor β} {readFound readOther : Reader β}
    (yes : Tracks list outer unread found readFound start)
    (no : Tracks list outer unread other readOther start) :
    Tracks list outer unread
      (Cursor.nextIs list.slots lexeme >>= fun isNext => if isNext = true then found else other)
      (ahead lexeme readFound readOther) start :=
  nextIs (fun starts => yes.congr (ahead_of_starts starts))
    (fun absent => no.congr (ifNext_of_not_starts absent))

/-- Taking the token that a cursor has left in front of the rest. -/
theorem close {lexeme : Lexeme} {first : Cursor α} {second : α → Cursor β} {readFirst : Reader α}
    {readSecond : α → Reader β} (one : Tracks list outer (fun _ => [lexeme]) first readFirst start)
    (two : ∀ value middle, start ≤ middle →
      readFirst (list.tokens.drop start) = .ok (value, list.tokens.drop middle) →
        Tracks list outer unread (second value) (readSecond value) middle) :
    Tracks list outer unread
      (first >>= fun value => Cursor.advance list.slots >>= fun _ => second value)
      (readFirst >>= readSecond) start := by
  have closing : Tracks list outer (fun _ => [])
      (first >>= fun value => Cursor.advance list.slots >>= fun _ => Pure.pure value)
      (readFirst >>= Pure.pure) start := by
    intro inside
    obtain ⟨middle, trail, goes⟩ := one inside
    cases read : readFirst (list.tokens.drop start) with
    | error error => exact ⟨middle, trail, goes.fails read _ _ _⟩
    | ok result =>
        obtain ⟨value, rest⟩ := result
        obtain ⟨front, alone, same⟩ := goes.rest value rest read
        obtain ⟨token, rfl, -⟩ := List.map_eq_singleton_iff.mp alone
        have settled : (Pure.pure value : Reader α) rest = .ok (value, rest) := rfl
        have taken : Tracks list outer (fun _ => [])
            (Cursor.advance list.slots >>= fun _ => Pure.pure value) (fun _ => .ok (value, rest))
            middle := take same settled.symm (pure value rfl)
        refine after (goes.run_ok read) goes.orderly goes.le goes.inside ?_ taken inside
        rw [bind_pure, read]
  rw [bind_pure] at closing
  have whole := bind closing two
  simpa only [bind_assoc, pure_bind] using whole

/-- A loop that takes tokens whenever it goes round stays below the number of tokens. -/
theorem repeatedly {round : σ → Cursor (σ ⊕ α)} (body : σ → Reader (σ ⊕ α))
    (read : σ → Reader α) {last : α → List Lexeme}
    (tracks : ∀ state start,
      Tracks list outer (Sum.elim (fun _ => []) last) (round state) (body state) start)
    (unfolds : ∀ state, read state = body state >>= Sum.elim read Pure.pure)
    (shorter : ∀ state tokens next rest, body state tokens = .ok (.inl next, rest) →
      rest.length < tokens.length) {limit : Nat} (state : σ) (start : Nat)
    (enough : list.tokens.length < start + limit) :
    Tracks list outer last (Cursor.repeatedly round limit state) (read state) start := by
  -- The index of the next round is larger, which makes up for the limit that is smaller.
  induction limit generalizing state start with
  | zero => exact fun inside => absurd inside (Nat.not_le.mpr enough)
  | succ limit ih =>
      intro inside
      obtain ⟨middle, trail, goes⟩ := tracks state start inside
      rw [Cursor.repeatedly, unfolds]
      refine index (fun _ => ?_) inside
      cases went : body state (list.tokens.drop start) with
      | error error => exact ⟨middle, trail, goes.fails went _ _ _⟩
      | ok result =>
          obtain ⟨next | value, rest⟩ := result
          · obtain rfl := goes.drop_eq went rfl
            have less := shorter state _ next _ went
            rw [List.length_drop, List.length_drop] at less
            have further := ih next middle (by omega)
            refine after (goes.run_ok went) goes.orderly goes.le goes.inside ?_
              (index (after (fun events => Cursor.run_note _ _) (.again (by omega))
                (Nat.le_refl _) goes.inside rfl further)) inside
            rw [bind_apply, went]
            rfl
          · refine ⟨middle, trail, goes.le, goes.inside, goes.orderly, fun events => ?_, ?_⟩
            · simp only [Cursor.run_bind, goes.run_ok went, bind_apply, went, Option.bind_some]
              rfl
            · intro other left found
              rw [bind_apply, went] at found
              cases found
              exact goes.rest _ rest went

end Tracks

end Tracks

end DomainGen.Ddef

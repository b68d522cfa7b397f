import Mathlib.Data.List.GetD
import Mathlib.Data.List.Induction

/-! Streams that are cut into tokens, and readers that get the stream in chunks
and take at most one token for each chunk. The tokens found do not depend on
the chunks; how many of them have been taken does. -/

set_option autoImplicit false

namespace MiniMiner

/-- A rule that finds the first token of a stream as soon as all its symbols
are there, without looking further. -/
structure Framing (Symbol Token : Type) where
  symbols : Token → List Symbol
  next : List Symbol → Option (Token × List Symbol)
  next_eq : ∀ {stream token rest}, next stream = some (token, rest) →
    stream = symbols token ++ rest
  next_append : ∀ {stream token rest}, next stream = some (token, rest) →
    ∀ more, next (stream ++ more) = some (token, rest ++ more)
  symbols_ne_nil : ∀ {stream token rest}, next stream = some (token, rest) →
    symbols token ≠ []

namespace Framing

variable {Symbol Token : Type} (framing : Framing Symbol Token)

def tokensUpTo : (fuel : Nat) → List Symbol → List Token
  | 0, _ => []
  | fuel + 1, stream =>
      match framing.next stream with
      | none => []
      | some (token, rest) => token :: tokensUpTo fuel rest

/-- All complete tokens of a stream; each takes one symbol at least. -/
def tokens (stream : List Symbol) : List Token :=
  framing.tokensUpTo stream.length stream

theorem length_lt_of_next {stream rest : List Symbol} {token : Token}
    (found : framing.next stream = some (token, rest)) : rest.length < stream.length := by
  have split := congrArg List.length (framing.next_eq found)
  have positive := List.length_pos_iff.mpr (framing.symbols_ne_nil found)
  rw [List.length_append] at split
  omega

private theorem tokensUpTo_enough {fuel more : Nat} {stream : List Symbol}
    (enough : stream.length ≤ fuel) (larger : fuel ≤ more) :
    framing.tokensUpTo more stream = framing.tokensUpTo fuel stream := by
  induction fuel generalizing more stream with
  | zero =>
      cases more with
      | zero => rfl
      | succ more =>
          have empty : stream.length = 0 := by omega
          cases found : framing.next stream with
          | none => simp only [tokensUpTo, found]
          | some result =>
              have shorter := framing.length_lt_of_next found
              omega
  | succ fuel ih =>
      obtain ⟨more, rfl⟩ : ∃ other, more = other + 1 := ⟨more - 1, by omega⟩
      cases found : framing.next stream with
      | none => simp only [tokensUpTo, found]
      | some result =>
          obtain ⟨token, rest⟩ := result
          have shorter := framing.length_lt_of_next found
          simp only [tokensUpTo, found]
          rw [ih (by omega) (by omega)]

theorem tokens_of_next {stream rest : List Symbol} {token : Token}
    (found : framing.next stream = some (token, rest)) :
    framing.tokens stream = token :: framing.tokens rest := by
  have shorter := framing.length_lt_of_next found
  obtain ⟨fuel, size⟩ : ∃ fuel, stream.length = fuel + 1 := ⟨stream.length - 1, by omega⟩
  simp only [tokens, size, tokensUpTo, found]
  rw [framing.tokensUpTo_enough (Nat.le_refl _) (by omega)]

theorem tokens_of_none {stream : List Symbol} (missing : framing.next stream = none) :
    framing.tokens stream = [] := by
  unfold tokens
  cases stream.length with
  | zero => rfl
  | succ fuel => simp only [tokensUpTo, missing]

theorem next_eq_none_of_tokens {stream : List Symbol} (empty : framing.tokens stream = []) :
    framing.next stream = none := by
  cases found : framing.next stream with
  | none => rfl
  | some result => simp [framing.tokens_of_next found] at empty

/-- The tokens taken from the front of a stream, and the rest of it. -/
inductive Takes : List Symbol → List Token → List Symbol → Prop where
  | nil (stream : List Symbol) : Takes stream [] stream
  | cons {stream middle rest : List Symbol} {token : Token} {taken : List Token} :
      framing.next stream = some (token, middle) → Takes middle taken rest →
      Takes stream (token :: taken) rest

namespace Takes

variable {framing} {stream rest : List Symbol} {taken : List Token}

theorem snoc {last : Token} {remaining : List Symbol}
    (takes : framing.Takes stream taken rest)
    (found : framing.next rest = some (last, remaining)) :
    framing.Takes stream (taken ++ [last]) remaining := by
  induction takes with
  | nil stream => exact .cons found (.nil remaining)
  | cons first _ ih => exact .cons first (ih found)

theorem append (takes : framing.Takes stream taken rest) (more : List Symbol) :
    framing.Takes (stream ++ more) taken (rest ++ more) := by
  induction takes with
  | nil stream => exact .nil _
  | cons first _ ih => exact .cons (framing.next_append first more) ih

theorem tokens_eq (takes : framing.Takes stream taken rest) :
    framing.tokens stream = taken ++ framing.tokens rest := by
  induction takes with
  | nil stream => rfl
  | cons first _ ih => rw [framing.tokens_of_next first, ih, List.cons_append]

theorem stream_eq (takes : framing.Takes stream taken rest) :
    stream = taken.flatMap framing.symbols ++ rest := by
  induction takes with
  | nil stream => rfl
  | cons first _ ih =>
      rw [framing.next_eq first, List.flatMap_cons, List.append_assoc, ← ih]

/-- Tokens that are found wherever their symbols stand are found one after another. -/
theorem of_flatMap {tokens : List Token} (rest : List Symbol)
    (found : ∀ token ∈ tokens, ∀ more,
      framing.next (framing.symbols token ++ more) = some (token, more)) :
    framing.Takes (tokens.flatMap framing.symbols ++ rest) tokens rest := by
  induction tokens with
  | nil => exact .nil rest
  | cons token tokens ih =>
      rw [List.flatMap_cons, List.append_assoc]
      refine .cons (found token List.mem_cons_self _) (ih fun other member => ?_)
      exact found other (List.mem_cons_of_mem _ member)

end Takes

/-- More symbols never change the tokens found before. -/
theorem tokens_initial (stream more : List Symbol) :
    framing.tokens stream <+: framing.tokens (stream ++ more) := by
  induction size : stream.length using Nat.strongRecOn generalizing stream with
  | _ size ih =>
      cases found : framing.next stream with
      | none =>
          rw [framing.tokens_of_none found]
          exact List.nil_prefix
      | some result =>
          obtain ⟨token, rest⟩ := result
          have shorter := framing.length_lt_of_next found
          rw [framing.tokens_of_next found, framing.tokens_of_next (framing.next_append found more)]
          exact (List.prefix_cons_inj token).mpr (ih rest.length (by omega) rest rfl)

structure Reader (Symbol Token : Type) where
  executed : List Token
  pending : List Symbol

/-- The reader stores a chunk and then takes one token if it has one. -/
def receive (reader : Reader Symbol Token) (chunk : List Symbol) : Reader Symbol Token :=
  match framing.next (reader.pending ++ chunk) with
  | none => { reader with pending := reader.pending ++ chunk }
  | some (token, rest) => { executed := reader.executed ++ [token], pending := rest }

def read (chunks : List (List Symbol)) : Reader Symbol Token :=
  chunks.foldl framing.receive { executed := [], pending := [] }

theorem read_append (chunks : List (List Symbol)) (chunk : List Symbol) :
    framing.read (chunks ++ [chunk]) = framing.receive (framing.read chunks) chunk := by
  simp only [read, List.foldl_append, List.foldl_cons, List.foldl_nil]

theorem length_pending_receive_le (reader : Reader Symbol Token) (chunk : List Symbol) :
    (framing.receive reader chunk).pending.length ≤ (reader.pending ++ chunk).length := by
  unfold receive
  split
  · exact Nat.le_refl _
  · next token rest found => exact Nat.le_of_lt (framing.length_lt_of_next found)

private theorem takes_receive {received : List Symbol} {reader : Reader Symbol Token}
    (takes : framing.Takes received reader.executed reader.pending) (chunk : List Symbol) :
    framing.Takes (received ++ chunk) (framing.receive reader chunk).executed
      (framing.receive reader chunk).pending := by
  have extended := takes.append chunk
  unfold receive
  split
  · exact extended
  · next token rest found => exact extended.snoc found

/-- The reader takes the tokens of the whole stream, in order, and holds the rest. -/
theorem takes_read (chunks : List (List Symbol)) :
    framing.Takes chunks.flatten (framing.read chunks).executed
      (framing.read chunks).pending := by
  induction chunks using List.reverseRecOn with
  | nil => exact .nil []
  | append_singleton chunks chunk ih =>
      rw [read_append, List.flatten_append, List.flatten_singleton]
      exact framing.takes_receive ih chunk

theorem length_executed_read_le (chunks : List (List Symbol)) :
    (framing.read chunks).executed.length ≤ chunks.length := by
  induction chunks using List.reverseRecOn with
  | nil => exact Nat.le_refl 0
  | append_singleton chunks chunk ih =>
      rw [read_append, List.length_append]
      unfold receive
      split
      · exact Nat.le_add_right_of_le ih
      · rw [List.length_append]
        exact Nat.add_le_add_right ih 1

/-- How many tokens each chunk completes, from some part of the stream on. -/
def arrivals : (stream : List Symbol) → (chunks : List (List Symbol)) → List Nat
  | _, [] => []
  | stream, chunk :: rest =>
      ((framing.tokens (stream ++ chunk)).length - (framing.tokens stream).length) ::
        arrivals (stream ++ chunk) rest

theorem arrivals_append (stream : List Symbol) (chunks : List (List Symbol))
    (chunk : List Symbol) :
    framing.arrivals stream (chunks ++ [chunk]) = framing.arrivals stream chunks ++
      [(framing.tokens (stream ++ chunks.flatten ++ chunk)).length -
        (framing.tokens (stream ++ chunks.flatten)).length] := by
  induction chunks generalizing stream with
  | nil => simp only [List.nil_append, arrivals, List.flatten_nil, List.append_nil]
  | cons first rest ih =>
      simp only [List.cons_append, arrivals, ih, List.flatten_cons, List.append_assoc]

/-- The tokens that wait if one is taken for each chunk. -/
def backlog (arrived : List Nat) : Nat :=
  arrived.foldl (fun waiting completed => waiting + completed - 1) 0

theorem length_tokens_pending (chunks : List (List Symbol)) :
    (framing.tokens (framing.read chunks).pending).length = backlog (framing.arrivals [] chunks) := by
  induction chunks using List.reverseRecOn with
  | nil => rfl
  | append_singleton chunks chunk ih =>
      have takes := framing.takes_read chunks
      have before := congrArg List.length takes.tokens_eq
      have after := congrArg List.length (takes.append chunk).tokens_eq
      rw [List.length_append] at before after
      have more := (framing.tokens_initial (framing.read chunks).pending chunk).length_le
      rw [arrivals_append, List.nil_append, before, after, Nat.add_sub_add_left, backlog,
        List.foldl_append, ← backlog, ← ih, List.foldl_cons, List.foldl_nil,
        Nat.add_sub_cancel' more, read_append]
      unfold receive
      split
      · next missing =>
        rw [framing.tokens_of_none missing]
        rfl
      · next token rest found =>
        rw [framing.tokens_of_next found, List.length_cons, Nat.add_sub_cancel]

/-- Every chunk completes at most one token of the stream. -/
def OneAtATime (chunks : List (List Symbol)) : Prop :=
  ∀ position < chunks.length,
    (framing.tokens (chunks.take (position + 1)).flatten).length ≤
      (framing.tokens (chunks.take position).flatten).length + 1

/-- Every chunk fits into the space that the reader has left. -/
def Fits (capacity : Nat) (chunks : List (List Symbol)) : Prop :=
  ∀ position < chunks.length,
    ((framing.read (chunks.take position)).pending ++ chunks.getD position []).length ≤ capacity

instance (chunks : List (List Symbol)) : Decidable (framing.OneAtATime chunks) :=
  inferInstanceAs (Decidable (∀ position < chunks.length, _))

instance (capacity : Nat) (chunks : List (List Symbol)) :
    Decidable (framing.Fits capacity chunks) :=
  inferInstanceAs (Decidable (∀ position < chunks.length, _))

variable {framing} {chunks : List (List Symbol)} {chunk : List Symbol}

theorem OneAtATime.of_append (single : framing.OneAtATime (chunks ++ [chunk])) :
    framing.OneAtATime chunks := by
  intro position inside
  have bound := single position (by rw [List.length_append]; omega)
  rwa [List.take_append_of_le_length (by omega), List.take_append_of_le_length (by omega)] at bound

theorem OneAtATime.last (single : framing.OneAtATime (chunks ++ [chunk])) :
    (framing.tokens (chunks.flatten ++ chunk)).length ≤
      (framing.tokens chunks.flatten).length + 1 := by
  have bound := single chunks.length (by simp)
  rwa [List.take_length_add_append, List.take_left, List.flatten_append,
    List.take_one, List.head?_cons, Option.toList_some, List.flatten_singleton] at bound

theorem OneAtATime.take (single : framing.OneAtATime chunks) (count : Nat) :
    framing.OneAtATime (chunks.take count) := by
  intro position inside
  rw [List.length_take] at inside
  have bound := single position (by omega)
  rwa [List.take_take, List.take_take, Nat.min_eq_left (by omega), Nat.min_eq_left (by omega)]

theorem Fits.of_append {capacity : Nat} (fits : framing.Fits capacity (chunks ++ [chunk])) :
    framing.Fits capacity chunks := by
  intro position inside
  have bound := fits position (by rw [List.length_append]; omega)
  rwa [List.take_append_of_le_length (by omega), List.getD_append _ _ _ _ inside] at bound

theorem Fits.last {capacity : Nat} (fits : framing.Fits capacity (chunks ++ [chunk])) :
    ((framing.read chunks).pending ++ chunk).length ≤ capacity := by
  have bound := fits chunks.length (by simp)
  rwa [List.take_left, List.getD_append_right _ _ _ _ (Nat.le_refl _), Nat.sub_self] at bound

theorem length_pending_read_le (framing : Framing Symbol Token) (chunks : List (List Symbol)) :
    (framing.read chunks).pending.length ≤ chunks.flatten.length := by
  rw [(framing.takes_read chunks).stream_eq, List.length_append]
  exact Nat.le_add_left _ _

theorem fits_of_length_le {capacity : Nat} (short : chunks.flatten.length ≤ capacity) :
    framing.Fits capacity chunks := by
  intro position inside
  have held := framing.length_pending_read_le (chunks.take position)
  have part : (chunks.take position).flatten ++ chunks.getD position [] =
      (chunks.take (position + 1)).flatten := by
    rw [List.take_add_one, List.getElem?_eq_getElem inside, Option.toList_some,
      List.flatten_append, List.flatten_singleton, List.getD_eq_getElem _ _ inside]
  have whole := congrArg List.length (congrArg List.flatten
    (List.take_append_drop (position + 1) chunks))
  rw [List.flatten_append, ← part, List.length_append, List.length_append] at whole
  rw [List.length_append]
  omega

theorem read_of_next_eq_none (missing : framing.next chunks.flatten = none) :
    framing.read chunks = { executed := [], pending := chunks.flatten } := by
  have takes := framing.takes_read chunks
  have none := takes.tokens_eq
  rw [framing.tokens_of_none missing] at none
  obtain ⟨unread, _⟩ := List.append_eq_nil_iff.mp none.symm
  have stream := takes.stream_eq
  rw [unread, List.flatMap_nil, List.nil_append] at stream
  rw [stream, ← unread]

/-- A reader that is given one token at a time never holds a complete one. -/
theorem OneAtATime.next_pending (single : framing.OneAtATime chunks) :
    framing.next (framing.read chunks).pending = none := by
  induction chunks using List.reverseRecOn with
  | nil =>
      cases found : framing.next [] with
      | none => exact found
      | some result => exact absurd (framing.length_lt_of_next found) (Nat.not_lt_zero _)
  | append_singleton chunks chunk ih =>
      have drained := ih single.of_append
      have before := (framing.takes_read chunks).tokens_eq
      have after := ((framing.takes_read chunks).append chunk).tokens_eq
      rw [framing.tokens_of_none drained, List.append_nil] at before
      have bound := single.last
      rw [after, before, List.length_append] at bound
      rw [read_append]
      unfold receive
      split
      · next missing => exact missing
      · next token rest found =>
        rw [framing.tokens_of_next found, List.length_cons] at bound
        have exhausted : framing.tokens rest = [] := List.length_eq_zero_iff.mp (by omega)
        exact framing.next_eq_none_of_tokens exhausted

/-- Frames with a header of fixed length that tells how many symbols follow it. -/
def headed (header : Nat) (positive : 0 < header) (tail : List Symbol → Nat) :
    Framing Symbol (List Symbol) where
  symbols := id
  next := fun stream =>
    if header + tail (stream.take header) ≤ stream.length then
      some (stream.splitAt (header + tail (stream.take header)))
    else none
  next_eq := by
    intro stream frame rest found
    split at found
    · rw [List.splitAt_eq] at found
      cases found
      exact (List.take_append_drop _ _).symm
    · cases found
  next_append := by
    intro stream frame rest found more
    split at found
    · next enough =>
      rw [List.splitAt_eq] at found
      cases found
      have longer : header + tail (stream.take header) ≤ (stream ++ more).length := by
        rw [List.length_append]
        omega
      rw [List.take_append_of_le_length (by omega), if_pos longer, List.splitAt_eq,
        List.take_append_of_le_length enough, List.drop_append_of_le_length enough]
    · cases found
  symbols_ne_nil := by
    intro stream frame rest found
    split at found
    · next enough =>
      rw [List.splitAt_eq] at found
      cases found
      refine List.ne_nil_of_length_pos ?_
      rw [id, List.length_take]
      omega
    · cases found

theorem next_headed {header : Nat} (positive : 0 < header) {tail : List Symbol → Nat}
    {frame : List Symbol} (length : frame.length = header + tail (frame.take header))
    (rest : List Symbol) :
    (headed header positive tail).next (frame ++ rest) = some (frame, rest) := by
  have start : (frame ++ rest).take header = frame.take header :=
    List.take_append_of_le_length (by omega)
  have enough : frame.length ≤ (frame ++ rest).length := by
    rw [List.length_append]
    omega
  simp only [headed, start, ← length, if_pos enough, List.splitAt_eq, List.take_left,
    List.drop_left]

/-- A stream of whole frames cuts into these frames. -/
theorem tokens_flatten {framing : Framing Symbol (List Symbol)} {frames : List (List Symbol)}
    (symbols : framing.symbols = id)
    (found : ∀ frame ∈ frames, ∀ rest, framing.next (frame ++ rest) = some (frame, rest)) :
    framing.tokens frames.flatten = frames := by
  have takes : framing.Takes (frames.flatMap framing.symbols ++ []) frames [] := by
    refine .of_flatMap [] fun frame member rest => ?_
    rw [symbols]
    exact found frame member rest
  have none : framing.tokens [] = [] := rfl
  have tokens := takes.tokens_eq
  rw [symbols, List.flatMap_id, List.append_nil, none, List.append_nil] at tokens
  exact tokens

end Framing

/-- Reading a stream of frames of one size, of which only the last may be
incomplete, frame by frame. -/
theorem frame_of_window {Symbol : Type} {size count : Nat} {frames : List (List Symbol)}
    {stream : List Symbol}
    (positive : 0 < size) (bounded : ∀ frame ∈ frames, frame.length ≤ size)
    (full : ∀ index, index + 1 < frames.length → ∀ frame, frames[index]? = some frame →
      frame.length = size)
    (initial : stream <+: frames.flatten) (enough : size * count + size ≤ stream.length) :
    frames[count]? = some ((stream.drop (size * count)).take size) := by
  induction count generalizing frames stream with
  | zero =>
      cases frames with
      | nil =>
          have short := initial.length_le
          simp only [List.flatten_nil, List.length_nil] at short
          omega
      | cons first rest =>
          have filled : first.length = size := by
            cases rest with
            | nil =>
                have long := initial.length_le
                have short := bounded first List.mem_cons_self
                simp only [List.flatten_cons, List.flatten_nil, List.append_nil] at long
                omega
            | cons second others => exact full 0 (by simp) first rfl
          obtain ⟨more, whole⟩ := initial
          have start := congrArg (List.take size) whole
          rw [List.take_append_of_le_length (by omega), List.flatten_cons, ← filled,
            List.take_left, filled] at start
          rw [Nat.mul_zero, List.drop_zero, start]
          rfl
  | succ count ih =>
      rw [Nat.mul_succ] at enough
      cases frames with
      | nil =>
          have short := initial.length_le
          simp only [List.flatten_nil, List.length_nil] at short
          omega
      | cons first rest =>
          have nonempty : rest ≠ [] := by
            intro empty
            rw [empty] at initial
            have long := initial.length_le
            have short := bounded first List.mem_cons_self
            simp only [List.flatten_cons, List.flatten_nil, List.append_nil] at long
            omega
          have filled : first.length = size :=
            full 0 (by simpa using List.length_pos_iff.mpr nonempty) first rfl
          obtain ⟨more, whole⟩ := initial
          have others := congrArg (List.drop size) whole
          rw [List.drop_append_of_le_length (by omega), List.flatten_cons, ← filled,
            List.drop_left, filled] at others
          have found := ih (fun frame member => bounded frame (List.mem_cons_of_mem _ member))
            (fun index inside frame found => full (index + 1) (by simpa using inside) frame found)
            ⟨more, others⟩ (by rw [List.length_drop]; omega)
          rw [List.getElem?_cons_succ, found, List.drop_drop, Nat.mul_succ, Nat.add_comm size]

end MiniMiner

import Matryoshka.Engine
import Matryoshka.KeyedHash

/-!
# The mock model

A model without weights. Its tokenizer splits at blanks and numbers each word by
a hash; its forward pass gives every token a pseudo-random vector and makes the
state at a position the mean of the vectors up to it. So the state at a position
depends on the tokens of its own row up to that position and on nothing else,
which is what tests of batching need. Failures can be built in.

A forward pass writes its states into a grid of padding, and has one buffer for
the vector of a token and one for the sum so far, which it uses for all tokens
of all rows. The sum is set to zero before each row, so nothing of a row is left
for the next one (`cells_addRow`), and the pass is row by row the list of running
means (`states_eq`).
-/

namespace Matryoshka.Mock

/-- The number of ids that words are spread over; id zero is left to padding. -/
def vocabularySize : UInt64 := 50000

/-- The id that fills up shorter sequences. -/
def padId : TokenId := 0

/-- The component of states at padded positions, large enough to be noticed. -/
def padState : Float32 := 1000

/-- The id of a word. -/
def wordId (word : List Char) : TokenId :=
  let bytes := (String.ofList word).toUTF8.toList ++ [0xff]
  (KeyedHash.ofBytes bytes % (vocabularySize - 1) + 1).toUInt32

/-- Words split at blanks, each with its id. -/
def tokenizer : Tokenizer where
  encode text :=
    match Text.words text.toList with
    | [] => .error .emptyInput
    | words => .ok (words.map wordId)
  padId := padId

/-- One step of the generator of components. -/
def step (state : UInt64) : UInt64 :=
  let state := state ^^^ (state >>> 12)
  let state := state ^^^ (state <<< 25)
  state ^^^ (state >>> 27)

/-- The component, between -1 and 1, that a state of the generator stands for. -/
def component (state : UInt64) : Float32 :=
  let bits := (state * 0x2545F4914F6CDD1D) >>> 40
  (Float32.ofNat bits.toNat / 16777216) * 2 - 1

/-- The next `count` components of the generator. -/
def components (state : UInt64) : Nat → List Float32
  | 0 => []
  | count + 1 => component (step state) :: components (step state) count

/-- The vector of a token. -/
def tokenVector (width : Nat) (id : TokenId) : List Float32 :=
  components ((id.toUInt64 * 0x9E3779B97F4A7C15) ||| 1) width

/-- The states of the tokens that follow `seen` tokens whose vectors add up to `total`. -/
def statesFrom (width : Nat) (total : List Float32) (seen : Nat) :
    List TokenId → List (List Float32)
  | [] => []
  | id :: ids =>
    let sum := List.zipWith (· + ·) total (tokenVector width id)
    sum.map (· / Float32.ofNat (seen + 1)) :: statesFrom width sum (seen + 1) ids

/-- The states of a row of tokens: at each position the mean of the vectors so far. -/
def rowStates (width : Nat) (ids : List TokenId) : List (List Float32) :=
  statesFrom width (List.replicate width 0) 0 ids

/-- Exactly `positions` states: those given, then states of padding. -/
def fillRow (width positions : Nat) (states : List (List Float32)) : List (List Float32) :=
  (TokenBatch.padRight positions (List.replicate width padState) states).take positions

/-- The components of a token are as many as asked for. -/
theorem length_components (state : UInt64) (count : Nat) :
    (components state count).length = count := by
  induction count generalizing state with
  | zero => rfl
  | succ count ih => simp [components, ih]

/-- Every state has `width` components. -/
theorem length_of_mem_statesFrom (width : Nat) (total : List Float32) (seen : Nat)
    (ids : List TokenId) (full : total.length = width) :
    ∀ state ∈ statesFrom width total seen ids, state.length = width := by
  induction ids generalizing total seen with
  | nil => simp [statesFrom]
  | cons id ids ih =>
    have sumFull : (List.zipWith (· + ·) total (tokenVector width id)).length = width := by
      simp [tokenVector, length_components, full]
    intro state member
    simp only [statesFrom, List.mem_cons] at member
    rcases member with rfl | later
    · simpa using sumFull
    · exact ih _ _ sumFull state later

/-- A filled row has a state at every position. -/
theorem length_fillRow (width positions : Nat) (states : List (List Float32)) :
    (fillRow width positions states).length = positions := by
  simp [fillRow, TokenBatch.padRight]
  omega

/-- Every state of a filled row has `width` components. -/
theorem length_of_mem_fillRow (width positions : Nat) (states : List (List Float32))
    (full : ∀ state ∈ states, state.length = width) :
    ∀ state ∈ fillRow width positions states, state.length = width := by
  intro state member
  rcases List.mem_append.1 (List.mem_of_mem_take member) with given | filled
  · exact full state given
  · rw [List.eq_of_mem_replicate filled, List.length_replicate]

/-- The states of one row of a batch: those of its real tokens, then padding. -/
def batchRow (width positions : Nat) (ids : List TokenId) (tokens : Nat) : List (List Float32) :=
  fillRow width positions (rowStates width (ids.take tokens))

/-- A row of a batch comes from some ids and some number of tokens. -/
theorem exists_eq_batchRow {width positions : Nat} {rows : List (List TokenId)}
    {lengths : List Nat} {row : List (List Float32)}
    (member : row ∈ List.zipWith (batchRow width positions) rows lengths) :
    ∃ ids tokens, row = batchRow width positions ids tokens := by
  induction rows generalizing lengths with
  | nil => simp at member
  | cons ids rows ih =>
    cases lengths with
    | nil => simp at member
    | cons tokens lengths =>
      rcases List.mem_cons.1 member with rfl | later
      · exact ⟨ids, tokens, rfl⟩
      · exact ih later

/-! ## The loops of a forward pass -/

/-- What a forward pass works on: the states it will give, and its two buffers. -/
structure Workspace where
  /-- The states of all rows. -/
  cells : List (List (List Float32))
  /-- The vector of the token that is looked at. -/
  token : List Float32
  /-- The sum of the vectors of the row so far. -/
  running : List Float32
  deriving Repr

/-- Generate the vector of a token into a buffer, of which no more than `width` components are
written. -/
def writeVector (width : Nat) (id : TokenId) (buffer : List Float32) : List Float32 :=
  Grid.overwrite buffer 0 (tokenVector (min width buffer.length) id)

namespace Workspace

/-- Before the first row every state is padding. -/
def initial (width rows positions : Nat) : Workspace where
  cells := Grid.blank rows positions (List.replicate width padState)
  token := List.replicate width 0
  running := List.replicate width 0

/-- Add one token, and write the mean so far as its state. -/
def addToken (width : Nat) (work : Workspace) (row position : Nat) (id : TokenId) : Workspace :=
  let token := writeVector width id work.token
  let running := List.zipWith (· + ·) work.running token
  { cells := Grid.set work.cells row position (running.map (· / Float32.ofNat (position + 1)))
    token := token
    running := running }

/-- Add the tokens of a row from a position on. -/
def addTokens (width : Nat) (work : Workspace) (row position : Nat) : List TokenId → Workspace
  | [] => work
  | id :: ids => addTokens width (work.addToken width row position id) row (position + 1) ids

/-- Add a whole row, of which some first ids are tokens. -/
def addRow (width : Nat) (work : Workspace) (row : Nat) (ids : List TokenId) (tokens : Nat) :
    Workspace :=
  { work with running := work.running.map fun _ => 0 }.addTokens width row 0 (ids.take tokens)

/-- Add some rows from a row on. -/
def addRows (width : Nat) (work : Workspace) (row : Nat) :
    List (List TokenId) → List Nat → Workspace
  | ids :: rows, tokens :: lengths =>
    addRows width (work.addRow width row ids tokens) (row + 1) rows lengths
  | _, _ => work

/-- Both buffers have room for a state, and for no more. -/
structure Sized (width : Nat) (work : Workspace) : Prop where
  token : work.token.length = width
  running : work.running.length = width

end Workspace

/-- A vector that fills its buffer leaves nothing of what was there. -/
theorem writeVector_eq {width : Nat} {buffer : List Float32} (room : buffer.length = width)
    (id : TokenId) : writeVector width id buffer = tokenVector width id := by
  have full : (tokenVector width id).length = width := length_components _ _
  have written := Grid.overwrite_append [] buffer (tokenVector width id)
  rw [full, List.drop_of_length_le (Nat.le_of_eq room), List.append_nil, room,
    List.take_of_length_le (Nat.le_of_eq full)] at written
  rwa [writeVector, room, Nat.min_self]

namespace Workspace

variable {width : Nat} {work : Workspace}

/-- A token leaves the buffers as large as they were. -/
theorem Sized.addToken (sized : work.Sized width) (row position : Nat) (id : TokenId) :
    (work.addToken width row position id).Sized width := by
  have full : (tokenVector width id).length = width := length_components _ _
  constructor
  · simpa only [Workspace.addToken, writeVector_eq sized.token] using full
  · simp [Workspace.addToken, writeVector_eq sized.token, full, sized.running]

/-- The states of some tokens are written side by side. They go on from the sum so far, and not from
what was left in the buffer for a token. -/
theorem addTokens_spec (sized : work.Sized width) (row position : Nat) (ids : List TokenId) :
    (work.addTokens width row position ids).Sized width ∧
      (work.addTokens width row position ids).cells =
        Grid.write work.cells row position (statesFrom width work.running position ids) := by
  induction ids generalizing work position with
  | nil => exact ⟨sized, rfl⟩
  | cons id ids ih =>
    obtain ⟨kept, cells⟩ := ih (sized.addToken row position id) (position + 1)
    refine ⟨kept, cells.trans ?_⟩
    simp only [addToken, writeVector_eq sized.token]
    rfl

/-- A row is written from its own tokens alone, whatever the buffers hold from the row before. -/
theorem addRow_spec (sized : work.Sized width) (row : Nat) (ids : List TokenId) (tokens : Nat) :
    (work.addRow width row ids tokens).Sized width ∧
      (work.addRow width row ids tokens).cells =
        Grid.write work.cells row 0 (rowStates width (ids.take tokens)) := by
  have zero : work.running.map (fun _ => (0 : Float32)) = List.replicate width 0 := by
    rw [List.map_const', sized.running]
  have begun : Sized width { work with running := work.running.map fun _ => 0 } :=
    ⟨sized.token, (List.length_map _).trans sized.running⟩
  rw [rowStates, ← zero]
  exact addTokens_spec begun row 0 (ids.take tokens)

/-- The rows that are done stay, and each row that is still padding gets its own states. -/
theorem cells_addRows {positions row : Nat} {rows : List (List TokenId)} {lengths : List Nat}
    (sized : work.Sized width) (done : List (List (List Float32))) (behind : done.length = row)
    (begun : work.cells = done ++
      Grid.blank (min rows.length lengths.length) positions (List.replicate width padState)) :
    (work.addRows width row rows lengths).cells =
      done ++ List.zipWith (batchRow width positions) rows lengths := by
  induction rows generalizing work row done lengths with
  | nil => simpa [addRows, Grid.blank] using begun
  | cons ids rows ih =>
    cases lengths with
    | nil => simpa [addRows, Grid.blank] using begun
    | cons tokens lengths =>
      obtain ⟨kept, cells⟩ := addRow_spec sized row ids tokens
      rw [begun, List.length_cons, List.length_cons, Nat.succ_min_succ, Grid.blank,
        List.replicate_succ, ← behind, Grid.write_append_cons, Grid.overwrite_replicate,
        List.append_cons] at cells
      rw [addRows, ih kept _ (by simp [behind]) (behind ▸ cells)]
      exact List.append_assoc _ _ _

end Workspace

/-- The states that a forward pass writes for a batch. -/
def states (width : Nat) (batch : TokenBatch) : List (List (List Float32)) :=
  let rows := min batch.ids.length batch.lengths.length
  ((Workspace.initial width rows batch.positions).addRows width 0 batch.ids batch.lengths).cells

/-- The loops write every row from its own tokens. -/
theorem states_eq (width : Nat) (batch : TokenBatch) :
    states width batch =
      List.zipWith (batchRow width batch.positions) batch.ids batch.lengths :=
  Workspace.cells_addRows ⟨List.length_replicate, List.length_replicate⟩ [] rfl rfl

/-- A written row comes from some ids and some number of tokens. -/
theorem exists_of_mem_states {width : Nat} {batch : TokenBatch} {row : List (List Float32)}
    (member : row ∈ states width batch) :
    ∃ ids tokens, row = batchRow width batch.positions ids tokens := by
  rw [states_eq] at member
  exact exists_eq_batchRow member

/-- The forward pass of a model with `width` components. -/
def forward (width : Nat) (batch : TokenBatch) : Tensor Float32 where
  rows := min batch.ids.length batch.lengths.length
  positions := batch.positions
  width := width
  cells := states width batch
  length_cells := (congrArg List.length (states_eq width batch)).trans List.length_zipWith
  length_row := by
    intro row member
    obtain ⟨ids, tokens, rfl⟩ := exists_of_mem_states member
    exact length_fillRow _ _ _
  length_state := by
    intro row member
    obtain ⟨ids, tokens, rfl⟩ := exists_of_mem_states member
    exact length_of_mem_fillRow _ _ _
      (length_of_mem_statesFrom _ _ _ _ (List.length_replicate ..))

/-- The failures that a mock model is told to produce. -/
structure Faults where
  /-- Every load fails. -/
  failLoad : Bool := false
  /-- Every load breaks off. -/
  abortLoad : Bool := false
  /-- Every forward pass fails. -/
  failForward : Bool := false
  /-- Every forward pass breaks off. -/
  abortForward : Bool := false
  deriving Repr, DecidableEq

/-- The forward pass of a mock model of `width` components with built-in failures. -/
def faultyForward (faults : Faults) (width : Nat) (batch : TokenBatch) :
    Attempt (Tensor Float32) :=
  if faults.failForward then .failed (.compute "mock" .injected)
  else if faults.abortForward then .aborted
  else .done (forward width batch)

/-- The forward passes of a mock model: how it was set up, and how many it has run. -/
structure Runtime where
  /-- The number of components of its states. -/
  width : Nat
  /-- The failures built into it. -/
  faults : Faults := {}
  /-- How many passes there were, of 64 bits. -/
  passes : UInt64 := 0
  deriving Repr, DecidableEq

/-- Run one more pass. It counts whatever comes of it. -/
def Runtime.run (runtime : Runtime) (batch : TokenBatch) : Runtime × Attempt (Tensor Float32) :=
  ({ runtime with passes := runtime.passes + 1 },
    faultyForward runtime.faults runtime.width batch)

/-- The engine of a mock model. -/
def engine (faults : Faults) (model : Model) : Engine where
  model := model
  tokenizer := tokenizer
  forward := faultyForward faults model.nativeDim

/-- What loading a mock model comes to. -/
def load (faults : Faults) (model : Model) : Attempt Engine :=
  if faults.abortLoad then .aborted
  else if faults.failLoad then .failed (.modelLoad model.name .injected)
  else .done (engine faults model)

end Matryoshka.Mock

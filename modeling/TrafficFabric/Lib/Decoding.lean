import Mathlib.Data.List.Basic

set_option autoImplicit false

/- Decoders that read values off the front of a word. A decoder inverts an image when, with
anything behind the image, it either fails or reads the value and stops where the image ends. It
yields the value when it does not fail either. Whatever the input, a decoder gives values of a
kind when every value it reads is of that kind, and it is stable when more input behind what it
reads changes nothing. It is a codec when it reads the images of the values of a kind and nothing
else. -/
namespace TrafficFabric

section Decoding

variable {τ ε α β : Type}

abbrev Decoder (τ ε α : Type) := StateT (List τ) (Except ε) α

def Inverts (decoder : Decoder τ ε α) (image : List τ) (value : α) : Prop :=
  ∀ rest result, decoder (image ++ rest) = .ok result → result = (value, rest)

/-- A loop that decodes as many values as it is told. -/
def Decoder.repeated (decoder : Decoder τ ε α) : Nat → Decoder τ ε (List α)
  | 0 => pure []
  | count + 1 => do
      let value ← decoder
      let values ← decoder.repeated count
      pure (value :: values)

theorem Decoder.bind_ok {decoder : Decoder τ ε α} {next : α → Decoder τ ε β}
    {input rest : List τ} {value : α}
    (read : decoder input = .ok (value, rest)) : (decoder >>= next) input = next value rest := by
  change (decoder input >>= fun pair => next pair.1 pair.2) = next value rest
  rw [read]
  rfl

namespace Inverts

variable {decoder : Decoder τ ε α} {image : List τ} {value : α}

theorem pure (value : α) : Inverts (Pure.pure value : Decoder τ ε α) [] value := by
  intro rest result read
  exact (Except.ok.inj read).symm

theorem throw (reason : ε) (image : List τ) (value : α) :
    Inverts (MonadExcept.throw reason : Decoder τ ε α) image value := by
  intro rest result read
  cases read

theorem bind {next : α → Decoder τ ε β} {later : List τ} {final : β}
    (first : Inverts decoder image value) (second : Inverts (next value) later final) :
    Inverts (decoder >>= next) (image ++ later) final := by
  intro rest result read
  rw [List.append_assoc] at read
  change (decoder (image ++ (later ++ rest)) >>= fun pair => next pair.1 pair.2) = .ok result at read
  cases run : decoder (image ++ (later ++ rest)) with
  | error reason =>
      rw [run] at read
      cases read
  | ok pair =>
      rw [run] at read
      have stopped : pair = (value, later ++ rest) := first (later ++ rest) pair run
      subst stopped
      exact second rest result read

/-- What follows the last read of a sequence. -/
theorem finish {next : α → Decoder τ ε β} {final : β} (first : Inverts decoder image value)
    (second : Inverts (next value) [] final) : Inverts (decoder >>= next) image final := by
  have both : Inverts (decoder >>= next) (image ++ []) final := first.bind second
  rwa [List.append_nil] at both

theorem bind_pure {final : α → β} (first : Inverts decoder image value) :
    Inverts (decoder >>= fun value => Pure.pure (final value)) image (final value) :=
  first.finish (Inverts.pure (final value))

/-- A check that reads nothing. -/
theorem guarded {check : Decoder τ ε α} {next : α → Decoder τ ε β} {final : β}
    (reads : Inverts check [] value) (second : Inverts (next value) image final) :
    Inverts (check >>= next) image final := by
  have both : Inverts (check >>= next) ([] ++ image) final := reads.bind second
  rwa [List.nil_append] at both

theorem ite {condition : Prop} [Decidable condition] {other : Decoder τ ε α}
    (holds : condition → Inverts decoder image value) (fails : ¬condition → Inverts other image value) :
    Inverts (if condition then decoder else other) image value := by
  by_cases decided : condition
  · rw [if_pos decided]
    exact holds decided
  · rw [if_neg decided]
    exact fails decided

theorem repeated {images : β → List τ} {values : β → α} (items : List β)
    (each : ∀ item ∈ items, Inverts decoder (images item) (values item)) :
    Inverts (decoder.repeated items.length) (items.flatMap images) (items.map values) := by
  induction items with
  | nil => exact Inverts.pure []
  | cons item rest ih =>
      have first := each item List.mem_cons_self
      have later := ih fun other member => each other (List.mem_cons_of_mem _ member)
      exact first.bind later.bind_pure

end Inverts

def Yields (decoder : Decoder τ ε α) (image : List τ) (value : α) : Prop :=
  ∀ rest, decoder (image ++ rest) = .ok (value, rest)

namespace Yields

variable {decoder : Decoder τ ε α} {image : List τ} {value : α}

theorem pure (value : α) : Yields (Pure.pure value : Decoder τ ε α) [] value := fun _ => rfl

theorem bind {next : α → Decoder τ ε β} {later : List τ} {final : β}
    (first : Yields decoder image value) (second : Yields (next value) later final) :
    Yields (decoder >>= next) (image ++ later) final := by
  intro rest
  rw [List.append_assoc]
  change (decoder (image ++ (later ++ rest)) >>= fun pair => next pair.1 pair.2) = .ok (final, rest)
  rw [first (later ++ rest)]
  exact second rest

/-- What follows the last read of a sequence. -/
theorem finish {next : α → Decoder τ ε β} {final : β} (first : Yields decoder image value)
    (second : Yields (next value) [] final) : Yields (decoder >>= next) image final := by
  have both : Yields (decoder >>= next) (image ++ []) final := first.bind second
  rwa [List.append_nil] at both

theorem bind_pure {final : α → β} (first : Yields decoder image value) :
    Yields (decoder >>= fun value => Pure.pure (final value)) image (final value) :=
  first.finish (Yields.pure (final value))

/-- A check that reads nothing and is passed. -/
theorem guarded {check : Decoder τ ε α} {next : α → Decoder τ ε β} {final : β}
    (passed : Yields check [] value) (second : Yields (next value) image final) :
    Yields (check >>= next) image final := by
  have both : Yields (check >>= next) ([] ++ image) final := passed.bind second
  rwa [List.nil_append] at both

theorem repeated {images : β → List τ} {values : β → α} (items : List β)
    (each : ∀ item ∈ items, Yields decoder (images item) (values item)) :
    Yields (decoder.repeated items.length) (items.flatMap images) (items.map values) := by
  induction items with
  | nil => exact Yields.pure []
  | cons item rest ih =>
      have first := each item List.mem_cons_self
      have later := ih fun other member => each other (List.mem_cons_of_mem _ member)
      exact first.bind later.bind_pure

end Yields

def Gives (decoder : Decoder τ ε α) (holds : α → Prop) : Prop :=
  ∀ input result, decoder input = .ok result → holds result.1

namespace Gives

variable {decoder : Decoder τ ε α} {holds : α → Prop}

theorem pure {value : α} (fact : holds value) : Gives (Pure.pure value : Decoder τ ε α) holds := by
  intro input result read
  cases read
  exact fact

theorem throw (reason : ε) : Gives (MonadExcept.throw reason : Decoder τ ε α) holds := by
  intro input result read
  cases read

theorem bind {next : α → Decoder τ ε β} {final : β → Prop} (first : Gives decoder holds)
    (second : ∀ value, holds value → Gives (next value) final) : Gives (decoder >>= next) final := by
  intro input result read
  change (decoder input >>= fun pair => next pair.1 pair.2) = .ok result at read
  cases run : decoder input with
  | error reason =>
      rw [run] at read
      cases read
  | ok pair =>
      rw [run] at read
      exact second pair.1 (first input pair run) pair.2 result read

theorem mono {wider : α → Prop} (first : Gives decoder holds) (widen : ∀ value, holds value → wider value) :
    Gives decoder wider := fun input result read => widen _ (first input result read)

/-- A read of which nothing needs to be known. -/
theorem after {next : α → Decoder τ ε β} {final : β → Prop} (second : ∀ value, Gives (next value) final) :
    Gives (decoder >>= next) final := by
  have first : Gives decoder fun _ => True := fun _ _ _ => trivial
  exact first.bind fun value _ => second value

theorem repeated (first : Gives decoder holds) (count : Nat) :
    Gives (decoder.repeated count) fun values => values.length = count ∧ ∀ value ∈ values, holds value := by
  induction count with
  | zero => exact Gives.pure ⟨rfl, nofun⟩
  | succ count ih =>
      refine first.bind fun value fact => ih.bind fun values facts => Gives.pure ⟨?_, ?_⟩
      · rw [List.length_cons, facts.1]
      · exact List.forall_mem_cons.2 ⟨fact, facts.2⟩

end Gives

def Stable (decoder : Decoder τ ε α) : Prop :=
  ∀ input value rest more, decoder input = .ok (value, rest) →
    decoder (input ++ more) = .ok (value, rest ++ more)

namespace Stable

variable {decoder : Decoder τ ε α} {input : List τ} {value : α}

theorem pure (value : α) : Stable (Pure.pure value : Decoder τ ε α) := by
  intro input found rest more read
  cases read
  rfl

theorem throw (reason : ε) : Stable (MonadExcept.throw reason : Decoder τ ε α) := by
  intro input found rest more read
  cases read

theorem bind {next : α → Decoder τ ε β} (first : Stable decoder) (second : ∀ value, Stable (next value)) :
    Stable (decoder >>= next) := by
  intro input final rest more read
  change (decoder input >>= fun pair => next pair.1 pair.2) = .ok (final, rest) at read
  change (decoder (input ++ more) >>= fun pair => next pair.1 pair.2) = .ok (final, rest ++ more)
  cases run : decoder input with
  | error reason =>
      rw [run] at read
      cases read
  | ok pair =>
      rw [run] at read
      rw [first input pair.1 pair.2 more run]
      exact second pair.1 pair.2 final rest more read

theorem ite {condition : Prop} [Decidable condition] {other : Decoder τ ε α} (first : Stable decoder)
    (second : Stable other) : Stable (if condition then decoder else other) := by
  split
  · exact first
  · exact second

theorem repeated (first : Stable decoder) (count : Nat) : Stable (decoder.repeated count) := by
  induction count with
  | zero => exact Stable.pure []
  | succ count ih => exact first.bind fun value => ih.bind fun values => Stable.pure (value :: values)

/-- Behind input that is read to its end, everything is left over. -/
theorem extended (stable : Stable decoder) (read : decoder input = .ok (value, [])) (more : List τ) :
    decoder (input ++ more) = .ok (value, more) := stable input value [] more read

/-- Input that is read to its end has no shorter front that is. -/
theorem cut (stable : Stable decoder) {more : List τ} (read : decoder (input ++ more) = .ok (value, []))
    (longer : more ≠ []) (other : α) : decoder input ≠ .ok (other, []) := by
  intro early
  rw [stable.extended early more] at read
  cases read
  exact longer rfl

end Stable

/-- Whatever is read, the word it was read from and its value are of a kind. -/
def Consumes (decoder : Decoder τ ε α) (holds : α → List τ → Prop) : Prop :=
  ∀ input value rest, decoder input = .ok (value, rest) → ∃ word, input = word ++ rest ∧ holds value word

namespace Consumes

variable {decoder : Decoder τ ε α} {holds : α → List τ → Prop}

theorem pure {value : α} (fact : holds value []) : Consumes (Pure.pure value : Decoder τ ε α) holds := by
  intro input found rest read
  cases read
  exact ⟨[], rfl, fact⟩

theorem throw (reason : ε) : Consumes (MonadExcept.throw reason : Decoder τ ε α) holds := by
  intro input found rest read
  cases read

theorem bind {next : α → Decoder τ ε β} {final : β → List τ → Prop} (first : Consumes decoder holds)
    (second : ∀ value word, holds value word →
      Consumes (next value) fun result later => final result (word ++ later)) :
    Consumes (decoder >>= next) final := by
  intro input result rest read
  change (decoder input >>= fun pair => next pair.1 pair.2) = .ok (result, rest) at read
  cases run : decoder input with
  | error reason =>
      rw [run] at read
      cases read
  | ok pair =>
      rw [run] at read
      obtain ⟨word, split, fact⟩ := first input pair.1 pair.2 run
      obtain ⟨later, behind, facts⟩ := second pair.1 word fact pair.2 result rest read
      refine ⟨word ++ later, ?_, facts⟩
      rw [split, behind, List.append_assoc]

theorem mono {wider : α → List τ → Prop} (first : Consumes decoder holds)
    (widen : ∀ value word, holds value word → wider value word) : Consumes decoder wider := by
  intro input value rest read
  obtain ⟨word, split, fact⟩ := first input value rest read
  exact ⟨word, split, widen value word fact⟩

/-- A check that reads nothing. -/
theorem guarded {check : Decoder τ ε α} {fact : α → Prop} {next : α → Decoder τ ε β}
    {final : β → List τ → Prop} (first : Consumes check fun value word => word = [] ∧ fact value)
    (second : ∀ value, fact value → Consumes (next value) final) : Consumes (check >>= next) final := by
  refine first.bind fun value word reads => ?_
  rw [reads.1]
  exact second value reads.2

theorem ite {condition : Prop} [Decidable condition] {other : Decoder τ ε α}
    (first : condition → Consumes decoder holds) (second : ¬condition → Consumes other holds) :
    Consumes (if condition then decoder else other) holds := by
  split
  · rename_i decided
    exact first decided
  · rename_i decided
    exact second decided

end Consumes

/-- Whatever is read is read from its own image. -/
def Rewrites (decoder : Decoder τ ε α) (image : α → List τ) : Prop :=
  Consumes decoder fun value word => word = image value

namespace Rewrites

variable {decoder : Decoder τ ε α} {image : α → List τ}

theorem bind {next : α → Decoder τ ε β} {final : β → List τ → Prop} (first : Rewrites decoder image)
    (second : ∀ value, Consumes (next value) fun result later => final result (image value ++ later)) :
    Consumes (decoder >>= next) final := by
  refine Consumes.bind first fun value word spelled => ?_
  rw [spelled]
  exact second value

theorem repeated (rewrites : Rewrites decoder image) (count : Nat) :
    Consumes (decoder.repeated count) fun values word => word = values.flatMap image ∧
      values.length = count := by
  induction count with
  | zero => exact Consumes.pure ⟨rfl, rfl⟩
  | succ count ih =>
      refine rewrites.bind fun value => Consumes.bind ih fun values later others => ?_
      obtain ⟨rfl, counted⟩ := others
      refine Consumes.pure ⟨?_, congrArg Nat.succ counted⟩
      rw [List.flatMap_cons, List.append_nil]

end Rewrites

/-- The decoder reads the images of the values of a kind, each as its value, and nothing else. -/
structure Codec (decoder : Decoder τ ε α) (image : α → List τ) (holds : α → Prop) : Prop where
  yields : ∀ value, holds value → Yields decoder (image value) value
  consumes : Consumes decoder fun value word => word = image value ∧ holds value

namespace Codec

variable {decoder : Decoder τ ε α} {image : α → List τ} {holds : α → Prop}

/-- The image it consumes is the one it finds again when more follows. -/
theorem stable (codec : Codec decoder image holds) : Stable decoder := by
  intro input value rest more read
  obtain ⟨word, rfl, rfl, fact⟩ := codec.consumes input value rest read
  rw [List.append_assoc]
  exact codec.yields value fact (rest ++ more)

theorem repeated (codec : Codec decoder image holds) (count : Nat) :
    Codec (decoder.repeated count) (fun values => values.flatMap image)
      fun values => values.length = count ∧ ∀ value ∈ values, holds value := by
  refine ⟨?_, ?_⟩
  · rintro values ⟨rfl, facts⟩
    have each : ∀ value ∈ values, Yields decoder (image value) value := fun value member =>
      codec.yields value (facts value member)
    have all := Yields.repeated values each
    rwa [List.map_id'] at all
  · induction count with
    | zero => exact Consumes.pure ⟨rfl, rfl, nofun⟩
    | succ count ih =>
        refine codec.consumes.bind fun value word spelled => ih.bind fun values later others => ?_
        obtain ⟨rfl, fact⟩ := spelled
        obtain ⟨rfl, counted, facts⟩ := others
        refine Consumes.pure ⟨?_, ?_, List.forall_mem_cons.2 ⟨fact, facts⟩⟩
        · rw [List.flatMap_cons, List.append_nil]
        · rw [List.length_cons, counted]

end Codec

end Decoding

end TrafficFabric

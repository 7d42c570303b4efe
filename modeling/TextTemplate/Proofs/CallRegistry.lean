import Mathlib.Data.List.Forall2
import TextTemplate.Proofs.FaultMarks

/-!
The registry of filters. Each filter asks for parameters of certain kinds, and a table says which.
What a call is resolved to is read off that table: with too few or too many arguments the call is at
fault, else it is resolved if each argument has a meaning for its parameter, and the first argument
without one is at fault. Every argument is settled by itself, and the answers are put together in
their order.
-/
namespace TextTemplate

/-- Whether the number is exactly this integer. Both zeros are 0. -/
def Double.Denotes : Double → Int → Prop
  | .finite negative m, n => (if negative then -(m.units : Int) else m.units) = n * Magnitude.one
  | .nan, _ | .infinite _, _ => False

/-- What a filter asks of one of its arguments. -/
inductive Parameter where
  | count
  | index
  | direction
  | pattern (family : Family)
deriving DecidableEq, Repr

/-- The parameters of a filter, with the one that may be left out at the end. -/
def Filter.parameters : Filter → List Parameter
  | .lower | .upper | .lowerLocale | .upperLocale | .trim | .length => []
  | .left | .right => [.count]
  | .mid => [.count, .count]
  | .slice => [.index, .index]
  | .truncate | .pad => [.count, .direction]
  | .number => [.pattern .number]
  | .time => [.pattern .time]

/-- The words for directions. -/
def Side.words : List (String × Side) :=
  [("left", .left), ("right", .right), ("middle", .middle), ("center", .middle)]

/-- What an argument is decoded to. -/
inductive Decoded where
  | number (n : Int)
  | side (side : Side)
  | formatter (f : Formatter)
deriving DecidableEq, Repr

/-- What an argument means where a parameter is asked for. An argument that cannot stand there has
no meaning. -/
inductive Argument.Means : Parameter → Argument → Decoded → Prop
  | count {x : Double} {n : Nat} {span : Span} (h : x.Denotes n) (hle : n ≤ 2 ^ 30) :
      Means .count (.number x span) (.number n)
  | index {x : Double} {n : Int} {span : Span} (h : x.Denotes n) (hle : n.natAbs ≤ 2 ^ 30) :
      Means .index (.number x span) (.number n)
  | quotedDirection {word : String} {side : Side} {span : Span} (h : (word, side) ∈ Side.words) :
      Means .direction (.str word span) (.side side)
  | bareDirection {word : String} {side : Side} {span : Span} (h : (word, side) ∈ Side.words) :
      Means .direction (.keyword word span) (.side side)
  | pattern {family : Family} {text : String} {f : Formatter} {span : Span}
      (h : Formatter.parse family text = .ok f) :
      Means (.pattern family) (.str text span) (.formatter f)

/-- The fault of an argument that has no meaning: that of the pattern if it is a quoted one. -/
inductive Argument.Fails (filter : Filter) : Parameter → Argument → Fault → Prop
  | pattern {family : Family} {text : String} {e : FormatError} {span : Span}
      (h : Formatter.parse family text = .error e) :
      Fails filter (.pattern family) (.str text span) (.invalidPattern family text e.reason)
  | argument {parameter : Parameter} {arg : Argument} {reason : String}
      (h : ∀ family text span, parameter = .pattern family → arg ≠ .str text span) :
      Fails filter parameter arg (.invalidArgument filter reason)

namespace FilterCall

def HasArity (call : FilterCall) : Prop :=
  call.filter.arity.1 ≤ call.args.length ∧ call.args.length ≤ call.filter.arity.2

/-- The arguments of a call, each with the parameter that it is for. -/
def asked (call : FilterCall) : List (Parameter × Argument) :=
  call.filter.parameters.zip call.args

end FilterCall

namespace Step

/-- What the arguments of a step have been decoded to. A side is also there if none was written. -/
def decoded : Step Formatter → List Decoded
  | operation .lower | operation .upper | operation .lowerLocale | operation .upperLocale
  | operation .trim | operation .length => []
  | operation (.left n) | operation (.right n) => [.number n]
  | operation (.mid start n) => [.number start, .number n]
  | operation (.slice start stop) => .number start :: stop.toList.map .number
  | operation (.truncate width side) | operation (.pad width side) => [.number width, .side side]
  | format f => [.formatter f]

/-- The outcome of resolving a call is the one that the tables of arities and parameters give. -/
structure FollowsRegistry (call : FilterCall) (outcome : Except CompileError (Step Formatter)) :
    Prop where
  /-- The number of arguments is at fault exactly if it is not in range. -/
  argumentCount_iff : (∃ filter least most got place,
    outcome = .error ⟨.argumentCount filter least most got, place⟩) ↔ ¬call.HasArity
  argumentCount : ¬call.HasArity → outcome = .error
    ⟨.argumentCount call.filter call.filter.arity.1 call.filter.arity.2 call.args.length, call.span⟩
  /-- Arguments in that number are each for a parameter. -/
  map_asked : call.HasArity → call.asked.map (·.2) = call.args
  /-- The call is then resolved exactly if each of its arguments has a meaning. -/
  ok_iff : call.HasArity →
    ((∃ step, outcome = .ok step) ↔ ∀ pair ∈ call.asked, ∃ d, pair.2.Means pair.1 d)
  /-- The step is one of the same filter, and it has the meanings of the arguments in their order
  and behind them only a side that was not written. -/
  ok : ∀ step, outcome = .ok step → step.filter = call.filter ∧
    ∃ written defaults, step.decoded = written ++ defaults ∧
      List.Forall₂ (fun pair d => pair.2.Means pair.1 d) call.asked written ∧
      ∀ d ∈ defaults, d = .side .right
  /-- The first argument that has no meaning is at fault. -/
  error : call.HasArity → ∀ e, outcome = .error e →
    ∃ front parameter arg later, call.asked = front ++ (parameter, arg) :: later ∧
      (∀ pair ∈ front, ∃ d, pair.2.Means pair.1 d) ∧ (¬∃ d, arg.Means parameter d) ∧
      arg.Fails call.filter parameter e.fault ∧ e.span = arg.span

end Step

theorem Filter.length_parameters (filter : Filter) :
    filter.parameters.length = filter.arity.2 := by
  cases filter <;> rfl

theorem FilterCall.map_asked {call : FilterCall} (h : call.HasArity) :
    call.asked.map (·.2) = call.args := by
  refine List.map_snd_zip ?_
  rw [Filter.length_parameters]
  exact h.2

/-! What each argument is decoded to. -/

theorem Double.denotes_finite_iff {negative : Bool} {m : Magnitude} {n : Int} :
    (finite negative m).Denotes n ↔
      m.isWhole = true ∧ n = if negative then -(m.floor : Int) else m.floor := by
  have hone := Magnitude.one_pos
  simp only [Denotes, Magnitude.isWhole, Magnitude.floor, beq_iff_eq]
  generalize m.units = units
  generalize Magnitude.one = one at hone ⊢
  have hcancel : (one : Int) ≠ 0 := by omega
  constructor
  · intro h
    have hunits : units = n.natAbs * one := by
      have habs := congrArg Int.natAbs h
      rw [Int.natAbs_mul, Int.natAbs_natCast] at habs
      cases negative <;> simpa using habs
    rw [hunits] at h ⊢
    rw [Nat.mul_div_cancel _ hone]
    refine ⟨Nat.mul_mod_left _ _, ?_⟩
    refine Int.eq_of_mul_eq_mul_right hcancel ?_
    rw [← h]
    cases negative with
    | true => rw [if_pos rfl, if_pos rfl, Int.neg_mul, Int.natCast_mul]
    | false => rw [if_neg Bool.false_ne_true, if_neg Bool.false_ne_true, Int.natCast_mul]
  · rintro ⟨hwhole, rfl⟩
    have hunits := Nat.div_mul_cancel (Nat.dvd_of_mod_eq_zero hwhole)
    have hcast : ((units / one : Nat) : Int) * one = units := by exact_mod_cast hunits
    cases negative with
    | true => rw [if_pos rfl, if_pos rfl, Int.neg_mul, hcast]
    | false => rw [if_neg Bool.false_ne_true, if_neg Bool.false_ne_true, hcast]

theorem Side.ofKeyword?_eq_some_iff {word : String} {side : Side} :
    ofKeyword? word = some side ↔ (word, side) ∈ words := by
  constructor
  · intro h
    unfold ofKeyword? at h
    split at h
    · rename_i hword
      cases h
      simp [words, hword]
    · split at h
      · rename_i hword
        cases h
        simp [words, hword]
      · split at h
        · rename_i hword
          cases h
          simpa [words] using hword
        · cases h
  · intro h
    simp only [words, List.mem_cons, Prod.mk.injEq, List.not_mem_nil, or_false] at h
    obtain ⟨rfl, rfl⟩ | ⟨rfl, rfl⟩ | ⟨rfl, rfl⟩ | ⟨rfl, rfl⟩ := h <;> rfl

namespace Operation
open Argument

variable {filter : Filter} {arg : Argument}

theorem position_eq_ok_iff {n : Int} :
    position filter arg = .ok n ↔ arg.Means .index (.number n) := by
  constructor
  · intro h
    cases arg with
    | str value span | keyword value span => cases h
    | number x span =>
        cases x with
        | nan | infinite _ => cases h
        | finite negative m =>
            simp only [position] at h
            split at h
            · cases h
            · rename_i hwhole
              split at h
              · cases h
              · rename_i hle
                cases h
                refine .index (Double.denotes_finite_iff.2 ⟨by simpa using hwhole, rfl⟩) ?_
                have hbound : m.floor ≤ 2 ^ 30 := Nat.not_lt.1 hle
                split <;> omega
  · intro h
    cases h with
    | @index x _ span hx hle =>
        cases x with
        | nan | infinite _ => cases hx
        | finite negative m =>
            obtain ⟨hwhole, rfl⟩ := Double.denotes_finite_iff.1 hx
            have hbound : m.floor ≤ maxArgument := by
              rw [maxArgument]
              split at hle <;> omega
            simp [position, hwhole, Nat.not_lt.2 hbound]

theorem count_eq_ok_iff {n : Nat} : count filter arg = .ok n ↔ arg.Means .count (.number n) := by
  constructor
  · intro h
    rw [count] at h
    split at h
    · cases h
    · rename_i k hposition
      split at h
      · cases h
      · cases h
        obtain ⟨n, rfl⟩ := Int.eq_ofNat_of_zero_le (Int.not_lt.1 ‹¬k < 0›)
        cases position_eq_ok_iff.1 hposition with
        | index hx hle => exact .count hx hle
  · intro h
    cases h with
    | @count x _ span hx hle =>
        have hposition : position filter (.number x span) = .ok (n : Int) :=
          position_eq_ok_iff.2 (.index hx hle)
        simp [count, hposition, Int.not_lt.2 (Int.natCast_nonneg n)]

theorem direction_eq_ok_iff {side : Side} :
    direction filter arg = .ok side ↔ arg.Means .direction (.side side) := by
  constructor
  · intro h
    rw [direction] at h
    split at h
    · rename_i hside
      cases h
      cases arg with
      | number x span => cases hside
      | str word span => exact .quotedDirection (Side.ofKeyword?_eq_some_iff.1 hside)
      | keyword word span => exact .bareDirection (Side.ofKeyword?_eq_some_iff.1 hside)
    · cases h
  · intro h
    cases h with
    | quotedDirection hword | bareDirection hword =>
        simp [direction, text?, Side.ofKeyword?_eq_some_iff.2 hword]

end Operation

namespace Argument

/-- An outcome of decoding an argument: what it means, or the fault of one that has no meaning. -/
inductive Settles (filter : Filter) (parameter : Parameter) (arg : Argument) :
    Except CompileError Decoded → Prop
  | ok {d : Decoded} (h : arg.Means parameter d) : Settles filter parameter arg (.ok d)
  | error {fault : Fault} (hnone : ¬∃ d, arg.Means parameter d)
      (hfault : arg.Fails filter parameter fault) :
      Settles filter parameter arg (.error ⟨fault, arg.span⟩)

variable {filter : Filter} {arg : Argument}

theorem settles_of_iff {parameter : Parameter} {α : Type} {decode : α → Decoded}
    {outcome : Except CompileError α} (hok : ∀ a, outcome = .ok a ↔ arg.Means parameter (decode a))
    (hdecode : ∀ d, arg.Means parameter d → ∃ a, d = decode a)
    (hblames : Operation.Blames filter [arg] outcome)
    (hparameter : ∀ family, parameter ≠ .pattern family) :
    arg.Settles filter parameter (outcome.map decode) := by
  cases houtcome : outcome with
  | ok a => exact .ok ((hok a).1 houtcome)
  | error e =>
      obtain ⟨blamed, hmem, reason, rfl⟩ := hblames e houtcome
      obtain rfl := List.mem_singleton.1 hmem
      refine .error (fun ⟨d, hd⟩ => ?_) (.argument fun family _ _ h => absurd h (hparameter family))
      -- An argument with a meaning would have been decoded.
      obtain ⟨a, rfl⟩ := hdecode d hd
      rw [(hok a).2 hd] at houtcome
      cases houtcome

theorem settles_position :
    arg.Settles filter .index ((Operation.position filter arg).map .number) := by
  refine settles_of_iff (fun n => Operation.position_eq_ok_iff) (fun d hd => ?_)
    (Operation.position_blames List.mem_cons_self) nofun
  cases hd
  exact ⟨_, rfl⟩

theorem settles_count : arg.Settles filter .count
    ((Operation.count filter arg).map fun n : Nat => Decoded.number n) := by
  refine settles_of_iff (fun n => Operation.count_eq_ok_iff) (fun d hd => ?_)
    (Operation.count_blames List.mem_cons_self) nofun
  cases hd
  exact ⟨_, rfl⟩

theorem settles_direction :
    arg.Settles filter .direction ((Operation.direction filter arg).map .side) := by
  refine settles_of_iff (fun n => Operation.direction_eq_ok_iff) (fun d hd => ?_)
    (Operation.direction_blames List.mem_cons_self) nofun
  cases hd <;> exact ⟨_, rfl⟩

end Argument

theorem Operation.Decodes.filter_eq {filter : Filter} {args : List Argument} {op : Operation}
    (h : Decodes filter args op) : op.filter = filter := by
  cases h <;> rfl

namespace Step
open FormatCache Argument

theorem resolveFormat_settles (filter : Filter) (family : Family) (arg : Argument)
    {cache : FormatCache} (h : cache.WellFormed) :
    ∃ outcome : Except CompileError Formatter,
      (resolveFormat filter family arg cache).1 = outcome.map format ∧
        arg.Settles filter (.pattern family) (outcome.map .formatter) := by
  cases arg with
  | number x span | keyword word span =>
      refine ⟨.error _, rfl, .error ?_ (.argument nofun)⟩
      rintro ⟨d, ⟨⟩⟩
  | str text span =>
      have houtcome := Resolution.formatter_outcome family text span h
        fun parsed => (format parsed : Step Formatter)
      cases hparse : Formatter.parse family text with
      | ok f =>
          rw [hparse] at houtcome
          exact ⟨.ok f, houtcome, .ok (.pattern hparse)⟩
      | error e =>
          rw [hparse] at houtcome
          have hfault : Fails filter (.pattern family) (.str text span) e.fault := by
            rw [Formatter.fault_of_parse hparse]
            exact .pattern hparse
          refine ⟨.error _, houtcome, .error ?_ hfault⟩
          rintro ⟨d, hd⟩
          cases hd with
          | pattern hok =>
              rw [hparse] at hok
              cases hok

/-- What the parts of a call come to: the meanings of all arguments, or the fault of the first
argument that has none. -/
theorem settles_all {filter : Filter} {asked : List (Parameter × Argument)}
    {outcomes : List (Except CompileError Decoded)}
    (h : List.Forall₂ (fun pair outcome => pair.2.Settles filter pair.1 outcome) asked outcomes) :
    (∃ written, outcomes.mapM id = .ok written ∧
      List.Forall₂ (fun pair d => pair.2.Means pair.1 d) asked written) ∨
    ∃ front parameter arg later fault, outcomes.mapM id = .error ⟨fault, arg.span⟩ ∧
      asked = front ++ (parameter, arg) :: later ∧
      (∀ pair ∈ front, ∃ d, pair.2.Means pair.1 d) ∧ (¬∃ d, arg.Means parameter d) ∧
      arg.Fails filter parameter fault := by
  induction h with
  | nil => exact .inl ⟨[], rfl, .nil⟩
  | @cons pair outcome asked outcomes hpair hrest ih =>
      obtain ⟨parameter, arg⟩ := pair
      rw [List.mapM_cons]
      cases hpair with
      | error hnone hfault =>
          exact .inr ⟨[], parameter, arg, asked, _, rfl, rfl, nofun, hnone, hfault⟩
      | ok hmeans =>
          obtain ⟨written, hwritten, hall⟩ |
            ⟨front, parameter', arg', later, fault, herror, rfl, hfront, hbad⟩ := ih
          · rw [hwritten]
            exact .inl ⟨_, rfl, .cons hmeans hall⟩
          · rw [herror]
            refine .inr ⟨(parameter, arg) :: front, parameter', arg', later, fault, rfl, rfl, ?_,
              hbad⟩
            rw [List.forall_mem_cons]
            exact ⟨⟨_, hmeans⟩, hfront⟩

theorem resolve_not_hasArity {call : FilterCall} (h : ¬call.HasArity) (cache : FormatCache) :
    (resolve call cache).1 = .error ⟨.argumentCount call.filter call.filter.arity.1
      call.filter.arity.2 call.args.length, call.span⟩ := by
  obtain ⟨filter, args, span⟩ := call
  rcases args with _ | ⟨_, _ | ⟨_, _ | ⟨_, _⟩⟩⟩ <;>
    cases filter <;> first | rfl | simp [FilterCall.HasArity, Filter.arity] at h

theorem resolve_operation {call : FilterCall} (h : call.filter.family? = none)
    (cache : FormatCache) : (resolve call cache).1 = (Operation.ofCall call).map operation := by
  simp only [resolve, h]
  rfl

section Rules
variable {call : FilterCall} {cache : FormatCache} {α β : Type} {first : Except CompileError α}
  {second : Except CompileError β}

/-- A rule for one argument. -/
theorem resolve_one {make : α → Operation} {decode : α → Decoded} {defaults : List Decoded}
    (hfamily : call.filter.family? = none)
    (hcall : Operation.ofCall call = first >>= fun a => pure (make a))
    (hdecoded : ∀ a, decoded (operation (make a)) = decode a :: defaults) :
    (resolve call cache).1.map decoded =
      ([first.map decode].mapM id).map (· ++ defaults) := by
  rw [resolve_operation hfamily, hcall]
  cases first with
  | error e => rfl
  | ok a => exact congrArg Except.ok (hdecoded a)

/-- A rule for two arguments, where the first one is decoded first. -/
theorem resolve_two {make : α → β → Operation} {decode : α → Decoded} {decode' : β → Decoded}
    (hfamily : call.filter.family? = none)
    (hcall : Operation.ofCall call = first >>= fun a => second >>= fun b => pure (make a b))
    (hdecoded : ∀ a b, decoded (operation (make a b)) = [decode a, decode' b]) :
    (resolve call cache).1.map decoded =
      ([first.map decode, second.map decode'].mapM id).map (· ++ []) := by
  rw [resolve_operation hfamily, hcall]
  cases first with
  | error e => rfl
  | ok a =>
      cases second with
      | error e => rfl
      | ok b => exact congrArg Except.ok (hdecoded a b)

end Rules

/-- The rules for calls ask for what the table of parameters says. -/
theorem resolve_settles {call : FilterCall} (harity : call.HasArity) {cache : FormatCache}
    (h : cache.WellFormed) :
    ∃ outcomes defaults,
      List.Forall₂ (fun pair outcome => pair.2.Settles call.filter pair.1 outcome) call.asked
        outcomes ∧
      (∀ d ∈ defaults, d = .side .right) ∧
      (resolve call cache).1.map decoded = (outcomes.mapM id).map (· ++ defaults) := by
  obtain ⟨filter, args, span⟩ := call
  obtain _ | ⟨arg, _ | ⟨arg', _ | ⟨_, _⟩⟩⟩ := args
  · cases filter with
    | lower | upper | lowerLocale | upperLocale | trim | length =>
        exact ⟨[], [], .nil, by simp, rfl⟩
    | left | right | mid | slice | truncate | pad | number | time =>
        simp [FilterCall.HasArity, Filter.arity] at harity
  · cases filter with
    | left | right =>
        exact ⟨_, [], .cons settles_count .nil, by simp, resolve_one rfl rfl fun _ => rfl⟩
    | slice =>
        exact ⟨_, [], .cons settles_position .nil, by simp, resolve_one rfl rfl fun _ => rfl⟩
    | truncate | pad =>
        exact ⟨_, [.side .right], .cons settles_count .nil, by simp,
          resolve_one rfl rfl fun _ => rfl⟩
    | number | time =>
        obtain ⟨outcome, hresolve, hsettles⟩ := resolveFormat_settles _ _ arg h
        refine ⟨_, [], .cons hsettles .nil, by simp, ?_⟩
        change (resolveFormat _ _ arg cache).1.map decoded = _
        rw [hresolve]
        cases outcome <;> rfl
    | lower | upper | lowerLocale | upperLocale | trim | length | mid =>
        simp [FilterCall.HasArity, Filter.arity] at harity
  · cases filter with
    | mid =>
        exact ⟨_, [], .cons settles_count (.cons settles_count .nil), by simp,
          resolve_two rfl rfl fun _ _ => rfl⟩
    | slice =>
        exact ⟨_, [], .cons settles_position (.cons settles_position .nil), by simp,
          resolve_two rfl rfl fun _ _ => rfl⟩
    | truncate | pad =>
        exact ⟨_, [], .cons settles_count (.cons settles_direction .nil), by simp,
          resolve_two rfl rfl fun _ _ => rfl⟩
    | lower | upper | lowerLocale | upperLocale | trim | length | left | right | number | time =>
        simp [FilterCall.HasArity, Filter.arity] at harity
  · cases filter <;> simp [FilterCall.HasArity, Filter.arity] at harity

theorem filter_format {filter : Filter} {f : Formatter} (h : filter.family? = some f.family) :
    (format f : Step Formatter).filter = filter := by
  cases f <;> cases filter <;> first | rfl | cases h

theorem filter_of_resolve {call : FilterCall} {step : Step Formatter} {cache : FormatCache}
    (h : cache.WellFormed) (he : (resolve call cache).1 = .ok step) :
    step.filter = call.filter := by
  obtain ⟨family, text, span, hfamily, -, heq⟩ | ⟨outcome, heq, hoperation⟩ := resolve_cases call
  · have houtcome := Resolution.formatter_outcome family text span h
      fun parsed => (format parsed : Step Formatter)
    rw [← heq, he] at houtcome
    cases hparse : Formatter.parse family text with
    | error e =>
        rw [hparse] at houtcome
        cases houtcome
    | ok f =>
        rw [hparse] at houtcome
        cases houtcome
        obtain ⟨rfl, -⟩ := Formatter.family_pattern_of_parse hparse
        exact filter_format hfamily
  · rw [heq] at he
    cases outcome with
    | error e => cases he
    | ok op =>
        cases he
        exact (Operation.ofCall_eq_ok_iff.1 (hoperation op rfl)).filter_eq

/-- What a call with arguments in the right number is resolved to. -/
theorem resolve_hasArity {call : FilterCall} (harity : call.HasArity) {cache : FormatCache}
    (h : cache.WellFormed) :
    (∃ step written defaults, (resolve call cache).1 = .ok step ∧
      step.decoded = written ++ defaults ∧
      List.Forall₂ (fun pair d => pair.2.Means pair.1 d) call.asked written ∧
      ∀ d ∈ defaults, d = .side .right) ∨
    ∃ front parameter arg later fault, (resolve call cache).1 = .error ⟨fault, arg.span⟩ ∧
      call.asked = front ++ (parameter, arg) :: later ∧
      (∀ pair ∈ front, ∃ d, pair.2.Means pair.1 d) ∧ (¬∃ d, arg.Means parameter d) ∧
      arg.Fails call.filter parameter fault := by
  obtain ⟨outcomes, defaults, hsettles, hdefaults, hresolve⟩ := resolve_settles harity h
  obtain ⟨written, hwritten, hmeans⟩ |
    ⟨front, parameter, arg, later, fault, herror, hbad⟩ := settles_all hsettles
  · rw [hwritten] at hresolve
    obtain ⟨step, hstep⟩ := exists_ok_of_map hresolve
    rw [hstep] at hresolve
    exact .inl ⟨step, written, defaults, hstep, Except.ok.inj hresolve, hmeans, hdefaults⟩
  · rw [herror] at hresolve
    refine .inr ⟨front, parameter, arg, later, fault, ?_, hbad⟩
    cases houtcome : (resolve call cache).1 with
    | ok step =>
        rw [houtcome] at hresolve
        cases hresolve
    | error e =>
        rw [houtcome] at hresolve
        cases hresolve
        rfl

/-- Every call is resolved as the registry says, in every cache that can be reached. -/
theorem resolve_followsRegistry (call : FilterCall) {cache : FormatCache} (h : Reachable cache) :
    FollowsRegistry call (resolve call cache).1 := by
  by_cases harity : call.HasArity
  · obtain ⟨step, written, defaults, hstep, hdecoded, hmeans, hdefaults⟩ |
      ⟨front, parameter, arg, later, fault, hstep, hasked, hfront, hnone, hfault⟩ :=
      resolve_hasArity harity h.wellFormed
    · have hfilter := filter_of_resolve h.wellFormed hstep
      rw [hstep]
      refine {
        argumentCount_iff := ⟨fun ⟨_, _, _, _, _, hcount⟩ => ?_, absurd harity⟩
        argumentCount := absurd harity
        map_asked := FilterCall.map_asked
        ok_iff := fun _ => ⟨fun _ => exists_of_forall₂ hmeans, fun _ => ⟨step, rfl⟩⟩
        ok := fun step' hstep' => ?_
        error := fun _ e he => ?_ }
      · cases hcount
      · cases hstep'
        exact ⟨hfilter, written, defaults, hdecoded, hmeans, hdefaults⟩
      · cases he
    · rw [hstep]
      refine {
        argumentCount_iff := ⟨fun ⟨_, _, _, _, _, hcount⟩ => ?_, absurd harity⟩
        argumentCount := absurd harity
        map_asked := FilterCall.map_asked
        ok_iff := fun _ => ⟨fun ⟨step, hok⟩ => ?_, fun hall => ?_⟩
        ok := fun step hok => ?_
        error := fun _ e he => ?_ }
      · cases hcount
        cases hfault
      · cases hok
      · exact absurd (hall (parameter, arg) (by simp [hasked])) hnone
      · cases hok
      · cases he
        exact ⟨front, parameter, arg, later, hasked, hfront, hnone, hfault, rfl⟩
  · rw [resolve_not_hasArity harity cache]
    refine {
      argumentCount_iff := ⟨fun _ => harity, fun _ => ⟨_, _, _, _, _, rfl⟩⟩
      argumentCount := fun _ => rfl
      map_asked := FilterCall.map_asked
      ok_iff := fun h => absurd h harity
      ok := fun step hok => ?_
      error := fun h => absurd h harity }
    cases hok

/-- Of these two arguments the first one is a zero and the second one is no number at all. -/
theorem resolve_followsRegistry_nan :
    Reachable .empty ∧
      FollowsRegistry ⟨.mid, [.number (.finite true .zero) ⟨8, 10⟩, .number .nan ⟨11, 14⟩], ⟨4, 7⟩⟩
        (.error ⟨.invalidArgument .mid "expected a whole number, found `NaN`", ⟨11, 14⟩⟩) := by
  refine ⟨.empty, ?_⟩
  have houtcome : (resolve
      ⟨.mid, [.number (.finite true .zero) ⟨8, 10⟩, .number .nan ⟨11, 14⟩], ⟨4, 7⟩⟩ .empty).1 =
        .error ⟨.invalidArgument .mid "expected a whole number, found `NaN`", ⟨11, 14⟩⟩ := by
    decide +kernel
  rw [← houtcome]
  exact resolve_followsRegistry _ .empty

end Step

end TextTemplate

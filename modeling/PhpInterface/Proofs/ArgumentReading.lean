import Mathlib.Tactic.Common
import PhpInterface.Command.Arguments

/-!
# Arguments that ask for an interface

`Accepts` says which arguments are understood as a request, one argument or one option with its value after
the other.  An option that stands among them can be taken away again without a change to what the others
mean; `withoutOutput` does so with the option for the output file.
-/

namespace PhpInterface

/-- The arguments are understood as a request, after what has been read. -/
inductive Accepts (environmentSource : Option String) : Reading → List String → Request → Prop
  | done {r : Reading} {q : Request} (hfinish : r.finish environmentSource = .request q) :
      Accepts environmentSource r [] q
  | separator {r next : Reading} {text : String} {rest : List String} {q : Request}
      (htext : Argument.ofText text = .separator) (hread : readPlain r rest = some next)
      (hfinish : next.finish environmentSource = .request q) : Accepts environmentSource r (text :: rest) q
  | plain {r next : Reading} {text : String} {rest : List String} {q : Request}
      (htext : Argument.ofText text = .plain) (hadd : r.addClass? text = some next)
      (hrest : Accepts environmentSource next rest q) : Accepts environmentSource r (text :: rest) q
  | flag {r next : Reading} {text name : String} {o : FlagOption} {rest : List String} {q : Request}
      (htext : Argument.ofText text = .long name none) (hname : FlagOption.ofName? name = some o)
      (hadd : r.addFlag? o = some next) (hrest : Accepts environmentSource next rest q) :
      Accepts environmentSource r (text :: rest) q
  /-- an option with its value after an equals sign -/
  | joined {r next : Reading} {text name value : String} {o : ValueOption} {rest : List String}
      {q : Request} (htext : Argument.ofText text = .long name (some value))
      (hname : ValueOption.ofName? name = some o) (hadd : r.addValue? o value = some next)
      (hrest : Accepts environmentSource next rest q) : Accepts environmentSource r (text :: rest) q
  /-- an option with its value in the next argument -/
  | apart {r next : Reading} {text name value : String} {o : ValueOption} {rest : List String}
      {q : Request} (htext : Argument.ofText text = .long name none)
      (hname : ValueOption.ofName? name = some o) (hvalue : canBeValue value)
      (hadd : r.addValue? o value = some next) (hrest : Accepts environmentSource next rest q) :
      Accepts environmentSource r (text :: value :: rest) q

lemma ValueOption.mem_of_ofName? {name : String} {o : ValueOption} (h : ofName? name = some o) :
    name ∈ ["source", "interface", "extends", "output", "methods-matching"] := by
  unfold ofName? at h
  split at h <;> first | decide | cases h

/-- The name of an option with a value is no other option's. -/
lemma ValueOption.unambiguous {name : String} {o : ValueOption} (h : ofName? name = some o) :
    FlagOption.ofName? name = none ∧ name ≠ "version" ∧ name ≠ "help" := by
  have hall : ∀ n ∈ ["source", "interface", "extends", "output", "methods-matching"],
      FlagOption.ofName? n = none ∧ n ≠ "version" ∧ n ≠ "help" := by decide
  exact hall name (mem_of_ofName? h)

lemma FlagOption.ne_of_ofName? {name : String} {o : FlagOption} (h : ofName? name = some o) :
    name ≠ "version" ∧ name ≠ "help" := by
  constructor <;> rintro rfl <;> cases h

lemma readArguments_eq_request_iff {environmentSource : Option String} {r : Reading}
    {arguments : List String} {q : Request} :
    readArguments environmentSource r arguments = .request q ↔
      Accepts environmentSource r arguments q := by
  constructor
  · intro h
    fun_induction readArguments environmentSource r arguments with
    | case1 r => exact .done h
    | case2 r text rest htext next hread => exact .separator htext hread h
    | case4 r text rest htext next hadd ih => exact .plain htext hadd (ih h)
    | case11 r text rest name o hname next hadd _ _ htext ih => exact .flag htext hname hadd (ih h)
    | case13 r text rest name o value hname _ next hadd _ _ htext ih =>
        exact .joined htext hname hadd (ih h)
    | case16 r text name o hname _ value rest next hadd _ _ htext ih =>
        by_cases hvalue : canBeValue value
        · rw [if_pos hvalue] at hadd
          exact .apart htext hname hvalue hadd (ih h)
        · rw [if_neg hvalue] at hadd
          cases hadd
    | _ => cases h
  · intro h
    induction h with
    | done hfinish => rwa [readArguments]
    | separator htext hread hfinish => rw [readArguments, htext]; simp only [hread, hfinish]
    | plain htext hadd _ ih => rw [readArguments, htext]; simp only [hadd, ih]
    | flag htext hname hadd _ ih =>
        rw [readArguments, htext]
        simp [hname, hadd, ih, FlagOption.ne_of_ofName? hname]
    | joined htext hname hadd _ ih =>
        obtain ⟨hflag, -, -⟩ := ValueOption.unambiguous hname
        rw [readArguments, htext]
        simp only [hflag, hname, hadd, ih]
    | apart htext hname hvalue hadd _ ih =>
        obtain ⟨hflag, hversion, hhelp⟩ := ValueOption.unambiguous hname
        rw [readArguments, htext]
        simp [hflag, hname, hvalue, hadd, ih, hversion, hhelp]

/-! ## Without the output file -/

/-- The arguments without the option for the output file and its value. -/
def withoutOutput : List String → List String
  | [] => []
  | text :: rest =>
    match Argument.ofText text with
    | .separator => text :: rest
    | .long name value =>
      match ValueOption.ofName? name, value with
      | none, _ => text :: withoutOutput rest
      | some o, some _ => if o = .output then withoutOutput rest else text :: withoutOutput rest
      | some o, none =>
        match rest with
        | [] => [text]
        | v :: more => if o = .output then withoutOutput more else text :: v :: withoutOutput more
    | _ => text :: withoutOutput rest

/-- What has been read, without the output file. -/
def Reading.withoutOutput (r : Reading) : Reading :=
  { r with values := r.values.filter fun v => v.1 ≠ .output }

namespace Reading

lemma addValue?_eq_some {r next : Reading} {o : ValueOption} {value : String}
    (h : r.addValue? o value = some next) :
    ¬(o ≠ .parents ∧ (r.values.any fun v => v.1 == o)) ∧
      ¬((o = .source ∨ o = .output) ∧ value.isEmpty) ∧
      next = { r with values := r.values ++ [(o, value)] } := by
  unfold addValue? at h
  split at h
  · cases h
  · next honce =>
      split at h
      · cases h
      · next hempty => exact ⟨honce, hempty, (Option.some.inj h).symm⟩

lemma withoutOutput_addOutput {r next : Reading} {value : String}
    (h : r.addValue? .output value = some next) : next.withoutOutput = r.withoutOutput := by
  obtain ⟨-, -, rfl⟩ := addValue?_eq_some h
  simp [withoutOutput]

lemma withoutOutput_addValue? {r next : Reading} {o : ValueOption} {value : String}
    (h : r.addValue? o value = some next) (ho : o ≠ .output) :
    r.withoutOutput.addValue? o value = some next.withoutOutput := by
  obtain ⟨honce, hempty, rfl⟩ := addValue?_eq_some h
  -- leaving values out leaves no value of the option in
  have honce' : ¬(o ≠ .parents ∧ (r.withoutOutput.values.any fun v => v.1 == o)) := by
    rintro ⟨hparents, hany⟩
    rw [withoutOutput, List.any_filter] at hany
    refine honce ⟨hparents, ?_⟩
    obtain ⟨v, hv, hvo⟩ := List.any_eq_true.mp hany
    exact List.any_eq_true.mpr ⟨v, hv, (Bool.and_eq_true_iff.mp hvo).2⟩
  rw [addValue?, if_neg honce', if_neg hempty]
  simp [withoutOutput, ho]

lemma withoutOutput_addFlag? {r next : Reading} {o : FlagOption} (h : r.addFlag? o = some next) :
    r.withoutOutput.addFlag? o = some next.withoutOutput := by
  unfold addFlag? at h ⊢
  split at h
  · cases h
  · next honce =>
      cases h
      rw [withoutOutput, if_neg honce]
      rfl

lemma withoutOutput_addClass? {r next : Reading} {name : String} (h : r.addClass? name = some next) :
    r.withoutOutput.addClass? name = some next.withoutOutput := by
  unfold addClass? at h ⊢
  split at h
  · next hnone =>
      cases h
      rw [withoutOutput, if_pos hnone]
      rfl
  · cases h

lemma withoutOutput_readPlain {r next : Reading} {rest : List String} (h : readPlain r rest = some next) :
    readPlain r.withoutOutput rest = some next.withoutOutput := by
  induction rest generalizing r with
  | nil =>
      cases h
      rfl
  | cons text rest ih =>
      rw [readPlain] at h ⊢
      cases hadd : r.addClass? text with
      | none => rw [hadd] at h; cases h
      | some mid =>
          rw [hadd] at h
          rw [withoutOutput_addClass? hadd]
          exact ih h

lemma value?_withoutOutput (r : Reading) (o : ValueOption) :
    r.withoutOutput.value? o = if o = .output then none else r.value? o := by
  rw [value?, value?, withoutOutput]
  dsimp only
  induction r.values with
  | nil => rw [List.filter_nil, List.lookup_nil, ite_self]
  | cons v rest ih =>
      obtain ⟨p, value⟩ := v
      by_cases hp : p = .output
      · rw [List.filter_cons_of_neg (by simp [hp]), ih, List.lookup_cons, hp]
        by_cases ho : o = .output
        · rw [if_pos ho, if_pos ho]
        · rw [if_neg ho, if_neg ho, beq_false_of_ne ho]
      · rw [List.filter_cons_of_pos (by simpa using hp), List.lookup_cons, List.lookup_cons, ih]
        by_cases hop : o = p
        · rw [hop, beq_self_eq_true, if_neg hp, if_neg hp]
        · rw [beq_false_of_ne hop]

lemma parents_withoutOutput (r : Reading) : r.withoutOutput.parents = r.parents := by
  rw [parents, parents, withoutOutput]
  dsimp only
  induction r.values with
  | nil => rfl
  | cons v rest ih =>
      obtain ⟨p, value⟩ := v
      by_cases hp : p = .output
      · rw [List.filter_cons_of_neg (by simp [hp]), ih, List.flatMap_cons, hp, if_neg nofun,
          List.nil_append]
      · rw [List.filter_cons_of_pos (by simpa using hp), List.flatMap_cons, List.flatMap_cons, ih]

lemma finish_withoutOutput {r : Reading} {environmentSource : Option String} {q : Request}
    (h : r.finish environmentSource = .request q) :
    r.withoutOutput.finish environmentSource = .request { q with output := none } := by
  have hclasses : r.withoutOutput.classNames = r.classNames := rfl
  unfold finish at h ⊢
  simp only [value?_withoutOutput, parents_withoutOutput, hclasses, reduceCtorEq, if_false, if_true]
  split at h
  · dsimp only at h
    split at h
    · cases h
    · next hsource =>
        rw [if_neg hsource]
        cases h
        rfl
  · cases h

end Reading

/-- Without the output file the arguments ask for the same, but to print it. -/
lemma Accepts.withoutOutput {environmentSource : Option String} {r : Reading} {arguments : List String}
    {q : Request} (h : Accepts environmentSource r arguments q) :
    Accepts environmentSource r.withoutOutput (PhpInterface.withoutOutput arguments)
      { q with output := none } := by
  induction h with
  | done hfinish => exact .done (Reading.finish_withoutOutput hfinish)
  | separator htext hread hfinish =>
      rw [PhpInterface.withoutOutput, htext]
      exact .separator htext (Reading.withoutOutput_readPlain hread) (Reading.finish_withoutOutput hfinish)
  | plain htext hadd _ ih =>
      rw [PhpInterface.withoutOutput, htext]
      exact .plain htext (Reading.withoutOutput_addClass? hadd) ih
  | @flag r next text name o rest q htext hname hadd _ ih =>
      have hnone : ValueOption.ofName? name = none := by
        cases hvalue : ValueOption.ofName? name with
        | none => rfl
        | some p => rw [(ValueOption.unambiguous hvalue).1] at hname; cases hname
      rw [PhpInterface.withoutOutput, htext]
      simp only [hnone]
      exact .flag htext hname (Reading.withoutOutput_addFlag? hadd) ih
  | @joined r next text name value o rest q htext hname hadd _ ih =>
      rw [PhpInterface.withoutOutput, htext]
      simp only [hname]
      by_cases ho : o = .output
      · rw [if_pos ho, ← Reading.withoutOutput_addOutput (ho ▸ hadd)]
        exact ih
      · rw [if_neg ho]
        exact .joined htext hname (Reading.withoutOutput_addValue? hadd ho) ih
  | @apart r next text name value o rest q htext hname hvalue hadd _ ih =>
      rw [PhpInterface.withoutOutput, htext]
      simp only [hname]
      by_cases ho : o = .output
      · rw [if_pos ho, ← Reading.withoutOutput_addOutput (ho ▸ hadd)]
        exact ih
      · rw [if_neg ho]
        exact .apart htext hname hvalue (Reading.withoutOutput_addValue? hadd ho) ih

lemma ofArguments_withoutOutput {arguments : List String} {environmentSource : Option String}
    {q : Request} (h : Invocation.ofArguments arguments environmentSource = .request q) :
    Invocation.ofArguments (withoutOutput arguments) environmentSource =
      .request { q with output := none } :=
  readArguments_eq_request_iff.mpr (readArguments_eq_request_iff.mp h).withoutOutput

end PhpInterface

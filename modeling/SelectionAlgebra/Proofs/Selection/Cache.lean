import SelectionAlgebra.Proofs.Edit
import SelectionAlgebra.Proofs.Selection.Names
import SelectionAlgebra.Selection.Session

/-!
The compiled form that is kept with a selection. It is always what compiling the expression would
give, so nothing that is done to selections shows whether it is kept.
-/

namespace SelectionAlgebra

/-! ## Loaded selections -/

namespace Json

theorem refuse_ne_ok {α : Type} (cs : List Char) (read : α × List Char) : refuse cs ≠ .ok read := by
  unfold refuse
  intro passed
  dsimp only at passed
  repeat' split at passed
  all_goals cases passed

theorem complete_of_readRecord {σ α : Type} {fields : List (RecordField σ)} {start : σ}
    {complete : σ → Option α} {cs rest : List Char} {a : α}
    (passed : readRecord fields start complete cs = .ok (a, rest)) :
    ∃ state, complete state = some a := by
  have closes {bracket : Char} {state : σ} {made : α} {after : List Char}
      (completed : complete state = some made)
      (passed : (close bracket after).map (made, ·) = .ok (a, rest)) :
      ∃ state, complete state = some a := by
    cases closed : close bracket after with
    | error fault => rw [closed] at passed; cases passed
    | ok _ => rw [closed] at passed; cases passed; exact ⟨state, completed⟩
  unfold readRecord at passed
  dsimp only at passed
  split at passed
  iterate 2
    split at passed
    · cases passed
    · split at passed
      · cases passed
      · exact closes ‹_› passed
  exact absurd passed (refuse_ne_ok _ _)

end Json

namespace Selection

theorem cache_of_ofJson {text : String} {s : Selection} (loaded : ofJson text = .ok s) :
    s.cache = none := by
  unfold ofJson Json.readText at loaded
  split at loaded
  · cases loaded
  · rename_i made rest passed
    split at loaded
    · cases loaded
      obtain ⟨draft, completed⟩ := Json.complete_of_readRecord passed
      obtain ⟨nodes, expression⟩ := draft
      cases nodes <;> cases expression <;> cases completed
      rfl
    · cases loaded

/-! ## What the compiled form is -/

def forgetCache (s : Selection) : Selection :=
  { s with cache := none }

/-- What is kept is what compiling the expression would give. -/
def Coherent (s : Selection) : Prop :=
  ∀ compiled, s.cache = some compiled → SelectionAlgebra.compile s.expression = .ok compiled

theorem coherent_of_cache_eq_none {s : Selection} (uncached : s.cache = none) : s.Coherent := by
  intro compiled kept
  rw [uncached] at kept
  cases kept

theorem compile_of_current? {s : Selection} (coherent : s.Coherent) {compiled : Compiled}
    (current : s.current? = some compiled) :
    s.cache = some compiled ∧ SelectionAlgebra.compile s.expression = .ok compiled := by
  obtain ⟨kept, -⟩ := Option.filter_eq_some_iff.mp current
  exact ⟨kept, coherent compiled kept⟩

theorem compile_eq {s : Selection} (coherent : s.Coherent) :
    s.compile = (SelectionAlgebra.compile s.expression,
      { s with cache := (SelectionAlgebra.compile s.expression).toOption }) := by
  unfold compile
  cases current : s.current? with
  | some compiled =>
    obtain ⟨kept, accepted⟩ := compile_of_current? coherent current
    rw [accepted]
    exact congrArg (Prod.mk _) (congrArg (Selection.mk s.nodes s.expression) kept)
  | none => cases SelectionAlgebra.compile s.expression <;> rfl

section

variable {α : Type} [MaskElement α]

def evaluateAfresh (s : Selection) (masks : MaskSet α) : Except SelectionError (List Bool) :=
  match SelectionAlgebra.compile s.expression with
  | .ok compiled => s.evaluateCompiled compiled masks
  | .error e => .error (.malformed e)

theorem evaluateWithOptions_eq {s : Selection} (coherent : s.Coherent) (masks : MaskSet α)
    (settings : EvalSettings) : s.evaluateWithOptions masks settings = s.evaluateAfresh masks := by
  unfold evaluateWithOptions evaluateAfresh
  cases current : s.current? with
  | some compiled =>
    obtain ⟨-, accepted⟩ := compile_of_current? coherent current
    rw [accepted]
  | none => rfl

end

/-! ## Operations on nodes -/

/-- The operation looks at nodes only, and changes nothing else. -/
def ActsOnNodes {ρ : Type} (operation : Selection → ρ × Selection) : Prop :=
  ∀ s : Selection, operation s =
    ((operation { nodes := s.nodes }).1,
      { s with nodes := (operation { nodes := s.nodes }).2.nodes })

namespace ActsOnNodes

variable {ρ τ : Type} {operation : Selection → ρ × Selection}

theorem map (f : ρ → τ) (acts : ActsOnNodes operation) :
    ActsOnNodes fun s => (f (operation s).1, (operation s).2) := by
  intro s
  dsimp only
  rw [acts s]

theorem forgetCache (acts : ActsOnNodes operation) (s : Selection) :
    operation s.forgetCache = ((operation s).1, (operation s).2.forgetCache) := by
  rw [acts s]
  exact acts s.forgetCache

theorem coherent (acts : ActsOnNodes operation) {s : Selection} (coherent : s.Coherent) :
    (operation s).2.Coherent := by
  rw [acts s]
  exact coherent

end ActsOnNodes

theorem actsOnNodes_unionNode (node : Node) : ActsOnNodes fun s => s.unionNode node := by
  intro s
  have matched : matching? { nodes := s.nodes } node = s.matching? node := rfl
  simp only [unionNode, matched]
  cases s.matching? node <;> rfl

theorem actsOnNodes_union (other : Selection) : ActsOnNodes fun s => s.union other := by
  intro s
  have planned : planUnion { nodes := s.nodes } other = s.planUnion other := rfl
  simp only [union, planned, editNodes, foldl_addNode]
  cases s.planUnion other with
  | error e => rfl
  | ok plan =>
    dsimp only
    cases Edit.each (carryOut Node.union) plan.merges s.nodes with
    | mk result nodes => cases result <;> rfl

theorem actsOnNodes_subtractNode (node : Node) : ActsOnNodes fun s => s.subtractNode node := by
  intro s
  have planned : planSubtractNode { nodes := s.nodes } node = s.planSubtractNode node := rfl
  simp only [subtractNode, planned]
  cases s.planSubtractNode node <;> rfl

theorem actsOnNodes_subtract (other : Selection) : ActsOnNodes fun s => s.subtract other := by
  intro s
  have planned : planSubtract { nodes := s.nodes } other = s.planSubtract other := rfl
  simp only [subtract, planned]
  cases s.planSubtract other <;> rfl

theorem actsOnNodes_editNode (name : String) (edit : Edit Node) :
    ActsOnNodes fun s => s.editNode name edit := by
  intro s
  simp only [editNode]
  cases s.nodes.findIdx? fun named => decide (named.name = name) <;> rfl

/-! ## Commands -/

def Command.OfExpression : Command → Prop
  | .clear | .setExpression _ | .compile => True
  | _ => False

theorem actsOnNodes_perform {command : Command} (ofNodes : ¬ command.OfExpression) :
    ActsOnNodes (perform command) := by
  cases command with
  | addNode node => exact fun _ => rfl
  | setNode name node => exact fun _ => rfl
  | removeNode name => exact fun _ => rfl
  | removeNodeAt i => exact fun _ => rfl
  | removeAllNodes => exact fun _ => rfl
  | union other => exact (actsOnNodes_union other).map _
  | unionNode node => exact (actsOnNodes_unionNode node).map _
  | subtract other => exact (actsOnNodes_subtract other).map _
  | subtractNode node => exact (actsOnNodes_subtractNode node).map _
  | editNode name edit => exact (actsOnNodes_editNode name edit).map _
  | clear | setExpression _ | compile => exact absurd trivial ofNodes

theorem coherent_setExpression {s : Selection} (coherent : s.Coherent) (expression : String) :
    (s.setExpression expression).Coherent := by
  intro compiled kept
  unfold setExpression at kept
  split at kept
  · rename_i same
    rw [setExpression, same]
    exact coherent compiled kept
  · cases kept

theorem coherent_compile {s : Selection} (coherent : s.Coherent) : s.compile.2.Coherent := by
  rw [compile_eq coherent]
  intro compiled kept
  dsimp only at kept ⊢
  cases made : SelectionAlgebra.compile s.expression with
  | error e => rw [made] at kept; cases kept
  | ok form => rw [made] at kept; cases kept; rfl

theorem coherent_perform {s : Selection} (coherent : s.Coherent) (command : Command) :
    (perform command s).2.Coherent := by
  by_cases expressive : command.OfExpression
  · cases command with
    | clear => exact coherent_setExpression (s := s.removeAllNodes) coherent ""
    | setExpression expression => exact coherent_setExpression coherent expression
    | compile => exact coherent_compile coherent
    | _ => exact expressive.elim
  · exact (actsOnNodes_perform expressive).coherent coherent

/-- Carry out a command on a selection that keeps no compiled form, neither before nor after. -/
def performAfresh (command : Command) (s : Selection) : Reply × Selection :=
  ((perform command s.forgetCache).1, (perform command s.forgetCache).2.forgetCache)

theorem performAfresh_forgetCache {s : Selection} (coherent : s.Coherent) (command : Command) :
    performAfresh command s.forgetCache =
      ((perform command s).1, (perform command s).2.forgetCache) := by
  have forgotten : s.forgetCache.forgetCache = s.forgetCache := rfl
  unfold performAfresh
  rw [forgotten]
  by_cases expressive : command.OfExpression
  · cases command with
    | clear => rfl
    | setExpression expression => rfl
    | compile =>
      have uncached : s.forgetCache.Coherent := coherent_of_cache_eq_none rfl
      simp only [perform, compile_eq coherent, compile_eq uncached]
      rfl
    | _ => exact expressive.elim
  · rw [(actsOnNodes_perform expressive).forgetCache]
    rfl

end Selection

/-! ## Sessions -/

namespace Session

def forgetCache (session : Session) : Session := fun name => (session name).forgetCache

def Coherent (session : Session) : Prop :=
  ∀ name, (session name).Coherent

theorem forgetCache_set (session : Session) (target : String) (s : Selection) :
    (session.set target s).forgetCache = session.forgetCache.set target s.forgetCache := by
  funext name
  simp only [forgetCache, set]
  split <;> rfl

theorem Coherent.set {session : Session} (coherent : session.Coherent) {s : Selection}
    (coherentToo : s.Coherent) (target : String) : (session.set target s).Coherent := by
  intro name
  unfold Session.set
  split
  · exact coherentToo
  · exact coherent name

section

variable {session : Session} (coherent : session.Coherent)
include coherent

theorem coherent_step (command : Command) : (step Selection.perform command session).2.Coherent := by
  have acted (target : String) (command : Selection.Command) :
      (step.act Selection.perform target command session).2.Coherent :=
    coherent.set (Selection.coherent_perform (coherent target) command) target
  cases command with
  | apply target command => exact acted target command
  | unite target source => exact acted target _
  | reduce target source => exact acted target _
  | copy target source => exact coherent.set (coherent source) target
  | load target text =>
    simp only [step]
    split
    · rename_i s loaded
      have uncached := Selection.cache_of_ofJson loaded
      exact coherent.set (Selection.coherent_of_cache_eq_none uncached) target
    · exact coherent

theorem step_forgetCache (command : Command) :
    step Selection.performAfresh command session.forgetCache =
      ((step Selection.perform command session).1,
        (step Selection.perform command session).2.forgetCache) := by
  have acted (target : String) (command : Selection.Command) :
      step.act Selection.performAfresh target command session.forgetCache =
        ((step.act Selection.perform target command session).1,
          (step.act Selection.perform target command session).2.forgetCache) := by
    have performed : Selection.performAfresh command (session.forgetCache target) = _ :=
      Selection.performAfresh_forgetCache (coherent target) command
    simp only [step.act, forgetCache_set, performed]
  cases command with
  | apply target command => exact acted target command
  -- of the other selection only the nodes are looked at
  | unite target source => exact acted target (.union (session source))
  | reduce target source => exact acted target (.subtract (session source))
  | copy target source =>
    simp only [step, forgetCache_set]
    rfl
  | load target text =>
    simp only [step]
    split
    · rename_i s loaded
      have uncached : s.forgetCache = s := by
        rw [Selection.forgetCache, ← Selection.cache_of_ofJson loaded]
      simp only [forgetCache_set, uncached]
    · rfl

end

theorem step_corresponds (command : Command) :
    Corresponds forgetCache Coherent (step Selection.perform command)
      (step Selection.performAfresh command) :=
  fun _ coherent => ⟨coherent_step coherent command, step_forgetCache coherent command⟩

/-- Whatever is done to selections, all answers are those of selections that keep no compiled form,
and so are the selections themselves but for what they keep. What they keep is what compiling the
expression gives; when that fails nothing is kept. -/
theorem uncached_run (commands : List Command) :
    let run := runAll (step Selection.perform) commands start
    runAll (step Selection.performAfresh) commands start = (run.1, run.2.forgetCache) ∧
      ∀ name,
        let s := run.2 name
        (∀ compiled, s.cache = some compiled → compile s.expression = .ok compiled) ∧
          s.compile.1 = compile s.expression ∧
          (∀ e, compile s.expression = .error e → s.compile.2 = s.forgetCache) ∧
          ∀ {α : Type} [MaskElement α] (masks : MaskSet α),
            s.evaluate masks = s.evaluateAfresh masks ∧
              ∀ settings, s.evaluateWithOptions masks settings = s.evaluateAfresh masks := by
  intro run
  have startsCoherent : start.Coherent := fun _ => Selection.coherent_of_cache_eq_none rfl
  obtain ⟨coherent, uncached⟩ := Corresponds.runAll step_corresponds commands start startsCoherent
  refine ⟨uncached, ?_⟩
  intro name s
  have compiles := Selection.compile_eq (coherent name)
  refine ⟨coherent name, congrArg Prod.fst compiles, ?_, ?_⟩
  · intro e failed
    rw [congrArg Prod.snd compiles, failed]
    rfl
  · intro α _ masks
    have evaluates := Selection.evaluateWithOptions_eq (coherent name) masks
    exact ⟨evaluates {}, evaluates⟩

end Session

end SelectionAlgebra

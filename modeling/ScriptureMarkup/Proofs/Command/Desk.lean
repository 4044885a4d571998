import ScriptureMarkup.Command.Run
import ScriptureMarkup.Proofs.Command.Files

namespace ScriptureMarkup.Command.Desk

variable {α β : Type}

theorem bind_apply (first : StateM Desk α) (next : α → StateM Desk β) (desk : Desk) :
    (first >>= next) desk = next (first desk).1 (first desk).2 := rfl

theorem pure_apply (a : α) (desk : Desk) : (pure a : StateM Desk α) desk = (a, desk) := rfl

theorem host_print (text : String) (desk : Desk) :
    host.print text desk = ((), { desk with printed := desk.printed ++ text }) := rfl

theorem host_report (text : String) (desk : Desk) :
    host.report text desk = ((), { desk with reported := desk.reported ++ text }) := rfl

theorem host_load (path : String) (desk : Desk) : host.load path desk = (desk.tree.load path, desk) := by
  simp only [Host.load, FileTree.load, host, bind_apply]
  cases desk.tree.read path <;> rfl

theorem loadAll_host (inputs : List String) (desk : Desk) :
    loadAll host inputs desk = (inputs.mapM desk.tree.load, desk) := by
  induction inputs with
  | nil => rfl
  | cons input inputs ih =>
    simp only [loadAll, bind_apply, host_load, List.mapM_cons]
    cases desk.tree.load input with
    | error failure => rfl
    | ok document =>
      simp only [bind_apply, ih]
      cases inputs.mapM desk.tree.load <;> rfl

/-- An action that may make directories, and does nothing else. -/
def Builds (action : StateM Desk α) : Prop :=
  ∀ desk, ∃ a later, action desk = (a, { desk with tree := later }) ∧ FileTree.Grown desk.tree later

theorem Builds.pure (a : α) : Builds (pure a) := fun _ => ⟨_, _, rfl, .refl _⟩

theorem Builds.bind {first : StateM Desk α} {next : α → StateM Desk β} (builds : Builds first)
    (onwards : ∀ a, Builds (next a)) : Builds (first >>= next) := by
  intro desk
  obtain ⟨a, between, run, grown⟩ := builds desk
  obtain ⟨b, later, run', grown'⟩ := onwards a { desk with tree := between }
  exact ⟨b, later, by rw [bind_apply, run, run'], grown.trans grown'⟩

theorem builds_makeDirectory (path : String) : Builds (host.makeDirectory path) := by
  intro desk
  simp only [host, change]
  cases made : desk.tree.makeDirectory path with
  | error fault => exact ⟨_, _, rfl, .refl _⟩
  | ok later => exact ⟨_, _, rfl, .makeDirectory made⟩

theorem builds_isDirectory (path : String) : Builds (host.isDirectory path) := fun _ => ⟨_, _, rfl, .refl _⟩

/-- Directories are made without a word, and no file is touched. -/
theorem builds_makeDirectories (absolute : Bool) (path : String) (steps : List String) :
    Builds (host.makeDirectories absolute path steps) := by
  induction steps generalizing path with
  | nil => exact .pure _
  | cons _ above ih =>
    have orPresent (fault : FileFault) :
        Builds (do if ← host.isDirectory path then pure (Except.ok ()) else pure (Except.error fault)) := by
      refine (builds_isDirectory path).bind fun present => ?_
      cases present <;> exact .pure _
    refine (builds_makeDirectory path).bind fun outcome => ?_
    match outcome with
    | .ok () => exact .pure _
    | .error .notFound =>
      refine (ih _).bind fun outcome => ?_
      match outcome with
      | .error fault => exact .pure _
      | .ok () =>
        refine (builds_makeDirectory path).bind fun outcome => ?_
        match outcome with
        | .ok () => exact .pure _
        | .error fault => exact orPresent fault
    | .error .exists | .error .notDirectory | .error .isDirectory | .error .nameTooLong
    | .error (.other _) => exact orPresent _

/-- Whether a directory is there or can be made, and what the desk is with it. -/
def Makes (desk : Desk) (directory : String) (ready : Desk) : Prop :=
  host.makeDirectories (isAbsolute directory) directory (properSteps directory).reverse desk = (.ok (), ready)

theorem Makes.grown {desk ready : Desk} {directory : String} (made : desk.Makes directory ready) :
    ready.printed = desk.printed ∧ ready.reported = desk.reported ∧ FileTree.Grown desk.tree ready.tree := by
  obtain ⟨outcome, later, run, grown⟩ :=
    builds_makeDirectories (isAbsolute directory) directory (properSteps directory).reverse desk
  cases made.symm.trans run
  exact ⟨rfl, rfl, grown⟩

end ScriptureMarkup.Command.Desk

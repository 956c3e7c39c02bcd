import ObjectTransfer.Proofs.Store.FailedUploads
import ObjectTransfer.Proofs.Store.Reports

/-!
# Questions to a store in files

Every question about an object is answered from what is found under its path,
and leaves the files as they are.  So a store keeps, as long as nobody uploads,
to the report of its tree.
-/

set_option autoImplicit false

namespace ObjectTransfer

namespace FileStore

def found (files : FileStore) (tree : FileTree) (place oid : String) :
    Except StoreFailure FileNode :=
  match files.path place oid with
  | .ok path => (tree.find path).mapError lookupFault
  | .error error => .error error

def report (files : FileStore) (tree : FileTree) : StoreReport where
  holds place oid :=
    match files.found tree place oid with
    | .ok _ => .ok true
    | .error .notFound => .ok false
    | .error error => .error error
  size place oid := (files.found tree place oid).map nodeSize
  downloadAction place oid _ lifetime hints :=
    .ok (MemoryStore.downloadFrom files.endpoints place oid lifetime hints)

variable (files : FileStore) (place oid : String) (world : FileWorld)

theorem resolve_apply : files.resolve place oid world = (files.path place oid, world) := by
  unfold resolve
  cases files.path place oid <;> rfl

theorem find_apply : files.find place oid world = (files.found world.tree place oid, world) := by
  unfold find found
  rw [Step.bind_apply, resolve_apply]
  cases files.path place oid with
  | error error => rfl
  | ok path =>
    simp only [Step.get_bind_apply]
    cases world.tree.find path <;> rfl

theorem holds_apply :
    files.store.holds place oid world = ((files.report world.tree).holds place oid, world) := by
  change files.holds place oid world = _
  unfold holds
  simp only [report, found]
  rw [Step.bind_apply, resolve_apply]
  cases named : files.path place oid with
  | error error =>
    obtain ⟨segment, rfl⟩ := path_eq_error files place oid error named
    rfl
  | ok path =>
    simp only [Step.get_bind_apply]
    cases world.tree.find path with
    | ok node => rfl
    | error fault => cases fault <;> rfl

theorem size_apply :
    files.store.size place oid world = ((files.report world.tree).size place oid, world) := by
  change (files.find place oid >>= fun node => pure (nodeSize node)) world = _
  rw [Step.bind_apply, find_apply]
  simp only [report]
  cases files.found world.tree place oid <;> rfl

theorem get_apply :
    files.store.get place oid world =
      ((files.found world.tree place oid).map nodeContent, world) := by
  change (files.find place oid >>= fun node => pure (nodeContent node)) world = _
  rw [Step.bind_apply, find_apply]
  cases files.found world.tree place oid <;> rfl

theorem exists_found_of_holds (held : (files.store.holds place oid world).1 = .ok true) :
    ∃ node, files.found world.tree place oid = .ok node := by
  rw [holds_apply] at held
  simp only [report] at held
  cases there : files.found world.tree place oid with
  | ok node => exact ⟨node, rfl⟩
  | error error =>
    rw [there] at held
    cases error <;> cases held

theorem keepsTo : files.store.KeepsTo (· = world) (files.report world.tree) where
  holds place oid := by
    rintro _ rfl
    rw [holds_apply]
    exact ⟨rfl, rfl⟩
  size place oid := by
    rintro _ rfl
    rw [size_apply]
    exact ⟨rfl, rfl⟩
  downloadAction place oid size lifetime hints := by
    rintro _ rfl
    exact ⟨rfl, rfl⟩

end FileStore

end ObjectTransfer

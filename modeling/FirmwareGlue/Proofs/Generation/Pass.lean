import FirmwareGlue.Generation
import FirmwareGlue.Proofs.Storage.Replacement

/-!
# Generation one operation at a time

Generation asks its surroundings for one operation after another. A pass writes the operations down
instead of carrying them out: it names the next one, and says for each answer how to go on. To make
a directory with those that it is in takes several operations here, one for each directory that is
tried or looked at, and to replace a file takes two. A pass that is carried out in one go does to a
file tree what generation does; carried out in turns with others, it is one of several that run at
the same time.
-/

namespace FirmwareGlue

open Storage FileTree Surroundings Generation

namespace OnTree

variable {α β : Type}

@[simp] theorem run_pure (a : α) (desk : Desk) : (pure a : OnTree α) desk = (a, desk) := rfl

@[simp] theorem run_bind (x : OnTree α) (f : α → OnTree β) (desk : Desk) :
    (x >>= f) desk = f (x desk).1 (x desk).2 := rfl

@[simp] theorem run_contentOf (path : String) (desk : Desk) :
    (contentOf path : OnTree _) desk = (desk.tree.read path, desk) := rfl

@[simp] theorem run_modifiedAt (path : String) (desk : Desk) :
    (modifiedAt path : OnTree _) desk = (desk.tree.modified path, desk) := rfl

theorem run_change (f : FileTree → α × FileTree) (desk : Desk) :
    OnTree.change f desk = ((f desk.tree).1, { desk with tree := (f desk.tree).2 }) := rfl

@[simp] theorem run_makeDirectories (path : String) (desk : Desk) :
    (makeDirectories path : OnTree _) desk =
      ((desk.tree.makeDirectories path).1,
        { desk with tree := (desk.tree.makeDirectories path).2 }) :=
  run_change (fun t => t.makeDirectories path) desk

@[simp] theorem run_replaceFile (path : String) (content : ByteArray) (desk : Desk) :
    (replaceFile path content : OnTree _) desk =
      ((desk.tree.replace path content).1,
        { desk with tree := (desk.tree.replace path content).2 }) :=
  run_change (fun t => t.replace path content) desk

@[simp] theorem run_record (r : Record) (desk : Desk) :
    (record r : OnTree _) desk = ((), { desk with records := desk.records ++ [r] }) := rfl

/-- Records leave the tree as it is. -/
theorem tree_recordAll (records : List Record) (desk : Desk) :
    ((recordAll records : OnTree Unit) desk).2.tree = desk.tree := by
  induction records generalizing desk with
  | nil => rfl
  | cons r rest ih => exact ih { desk with records := desk.records ++ [r] }

end OnTree

/-- What a pass can ask of a file tree at once. -/
inductive Operation where
  | contentOf (path : String)
  | modifiedAt (path : String)
  | makeDirectory (parts : List String)
  | leadsToDirectory (parts : List String)
  | writeBeside (path : String)
  | moveIntoPlace (path : String) (content : ByteArray)

namespace Operation

abbrev Answer : Operation → Type
  | contentOf _ => Except Fault ByteArray
  | modifiedAt _ => Except Fault Nat
  | makeDirectory _ => Except Fault Unit
  | leadsToDirectory _ => Bool
  | writeBeside _ => Except Fault Unit
  | moveIntoPlace .. => Except Fault Unit

def run : (operation : Operation) → FileTree → operation.Answer × FileTree
  | contentOf path, t => (t.read path, t)
  | modifiedAt path, t => (t.modified path, t)
  | makeDirectory parts, t => t.makeDirectory parts
  | leadsToDirectory parts, t => (t.leadsToDirectory parts, t)
  | writeBeside path, t => t.writeBeside path
  | moveIntoPlace path content, t => t.moveIntoPlace path content

end Operation

/-- Work on a file tree that has been done, or whose next operation is known. -/
inductive Pass (α : Type) where
  | done (result : α)
  | step (operation : Operation) (next : operation.Answer → Pass α)

namespace Pass

variable {α β : Type}

def bind : Pass α → (α → Pass β) → Pass β
  | done result, f => f result
  | step operation next, f => step operation fun answer => (next answer).bind f

@[simp] theorem done_bind (result : α) (f : α → Pass β) : (done result).bind f = f result := rfl

instance : Monad Pass where
  pure := done
  bind := bind

/-- Makes a directory in a directory that exists, unless it exists too. -/
def ensureDirectory (parts : List String) : Pass (Except Fault Unit) :=
  .step (.makeDirectory parts) fun
    | .error .alreadyExists =>
      .step (.leadsToDirectory parts) fun found =>
        .done (if found then .ok () else .error .alreadyExists)
    | answer => .done answer

/-- Makes the first of some directories, and before it those of the others that are lacking on the
way to it. -/
def makeFirst : List (List String) → Pass (Except Fault Unit)
  | [] => .done (.ok ())
  | parts :: leads =>
    (ensureDirectory parts).bind fun
      | .error .notFound =>
        (makeFirst leads).bind fun
          | .ok () => ensureDirectory parts
          | answer => .done answer
      | answer => .done answer

def makeDirectories (path : String) : Pass (Except Fault Unit) :=
  match unusable? path with
  | some fault => .done (.error fault)
  | none => makeFirst (leadingParts (partsOf path))

/-- Replaces a file: what is written beside it takes its place. -/
def replaceFile (path : String) (content : ByteArray) : Pass (Except Fault Unit) :=
  .step (.writeBeside path) fun
    | .ok () => .step (.moveIntoPlace path content) .done
    | answer => .done answer

/-- Records concern no file, so a pass leaves none. -/
instance : Surroundings Pass where
  contentOf path := .step (.contentOf path) .done
  modifiedAt path := .step (.modifiedAt path) .done
  makeDirectories := makeDirectories
  replaceFile := replaceFile
  record _ := .done ()

def perform : Pass α → FileTree → α × FileTree
  | done result, t => (result, t)
  | step operation next, t => (next (operation.run t).1).perform (operation.run t).2

theorem perform_bind (p : Pass α) (f : α → Pass β) (t : FileTree) :
    (p.bind f).perform t = (f (p.perform t).1).perform (p.perform t).2 := by
  induction p generalizing t with
  | done result => rfl
  | step operation next ih => exact ih _ _

theorem perform_ensureDirectory (parts : List String) (t : FileTree) :
    (ensureDirectory parts).perform t = t.ensureDirectory parts := by
  simp only [ensureDirectory, perform, Operation.run]
  unfold FileTree.ensureDirectory
  cases t.makeDirectory parts with
  | mk answer u =>
      cases answer with
      | ok _ => rfl
      | error fault => cases fault <;> rfl

theorem perform_makeFirst (leads : List (List String)) (t : FileTree) :
    (makeFirst leads).perform t = t.makeFirst leads := by
  induction leads generalizing t with
  | nil => rfl
  | cons parts leads ih =>
      rw [makeFirst, perform_bind, perform_ensureDirectory]
      unfold FileTree.makeFirst
      cases t.ensureDirectory parts with
      | mk answer u =>
          cases answer with
          | ok _ => rfl
          | error fault =>
              cases fault with
              | notFound =>
                  simp only [perform_bind, ih]
                  cases u.makeFirst leads with
                  | mk answer v =>
                      cases answer with
                      | error fault => rfl
                      | ok _ => exact perform_ensureDirectory parts v
              | _ => rfl

theorem perform_makeDirectories (path : String) (t : FileTree) :
    (makeDirectories path).perform t = t.makeDirectories path := by
  unfold makeDirectories FileTree.makeDirectories
  cases unusable? path with
  | none => exact perform_makeFirst _ t
  | some fault => rfl

theorem perform_replaceFile (path : String) (content : ByteArray) (t : FileTree) :
    (Surroundings.replaceFile path content : Pass _).perform t = t.replace path content := by
  simp only [Surroundings.replaceFile, replaceFile, perform, Operation.run]
  cases beside : t.writeBeside path with
  | mk answer u =>
      cases answer with
      | error fault => exact (replace_of_blocked beside content).symm
      | ok _ => exact (replace_of_beside beside content).symm

/-- Work on a file tree gives what a pass gives, and leaves the same tree. -/
structure CarriesOut (x : OnTree α) (p : Pass α) : Prop where
  answer : ∀ desk : Desk, (x desk).1 = (p.perform desk.tree).1
  tree : ∀ desk : Desk, (x desk).2.tree = (p.perform desk.tree).2

namespace CarriesOut

theorem pure (result : α) : CarriesOut (Pure.pure result) (Pure.pure result : Pass α) where
  answer _ := rfl
  tree _ := rfl

theorem bind {x : OnTree α} {p : Pass α} {f : α → OnTree β} {g : α → Pass β}
    (first : CarriesOut x p) (second : ∀ result, CarriesOut (f result) (g result)) :
    CarriesOut (x >>= f) (p >>= g) where
  answer desk := by
    have both : ((p >>= g).perform desk.tree) = (g (p.perform desk.tree).1).perform
        (p.perform desk.tree).2 := perform_bind p g desk.tree
    rw [OnTree.run_bind, (second _).answer, first.answer, first.tree, both]
  tree desk := by
    have both : ((p >>= g).perform desk.tree) = (g (p.perform desk.tree).1).perform
        (p.perform desk.tree).2 := perform_bind p g desk.tree
    rw [OnTree.run_bind, (second _).tree, first.answer, first.tree, both]

theorem contentOf (path : String) :
    CarriesOut (Surroundings.contentOf path) (Surroundings.contentOf path : Pass _) where
  answer _ := rfl
  tree _ := rfl

theorem modifiedAt (path : String) :
    CarriesOut (Surroundings.modifiedAt path) (Surroundings.modifiedAt path : Pass _) where
  answer _ := rfl
  tree _ := rfl

theorem makeDirectories (path : String) :
    CarriesOut (Surroundings.makeDirectories path)
      (Surroundings.makeDirectories path : Pass _) where
  answer desk := congrArg Prod.fst (perform_makeDirectories path desk.tree).symm
  tree desk := congrArg Prod.snd (perform_makeDirectories path desk.tree).symm

theorem replaceFile (path : String) (content : ByteArray) :
    CarriesOut (Surroundings.replaceFile path content)
      (Surroundings.replaceFile path content : Pass _) where
  answer desk := by
    rw [OnTree.run_replaceFile, perform_replaceFile]
  tree desk := by
    rw [OnTree.run_replaceFile, perform_replaceFile]

theorem record (r : Record) :
    CarriesOut (Surroundings.record r) (Surroundings.record r : Pass _) where
  answer _ := rfl
  tree _ := rfl

theorem recordAll (records : List Record) :
    CarriesOut (Surroundings.recordAll records) (Surroundings.recordAll records : Pass _) := by
  induction records with
  | nil => exact .pure ()
  | cons r rest ih => exact (record r).bind fun _ => ih

theorem replaceWith (path : String) (content : ByteArray) (said : String) :
    CarriesOut (Storage.replaceWith path content said)
      (Storage.replaceWith path content said : Pass _) := by
  refine (replaceFile path content).bind fun answer => ?_
  cases answer with
  | error fault => exact .pure _
  | ok _ => exact (record _).bind fun _ => .pure _

theorem writeIfChanged (path : String) (content : ByteArray) :
    CarriesOut (Storage.writeIfChanged path content)
      (Storage.writeIfChanged path content : Pass _) := by
  refine (contentOf path).bind fun answer => ?_
  cases answer with
  | ok existing =>
      by_cases same : existing.data = content.data
      · simp only [if_pos same]
        exact (record _).bind fun _ => .pure _
      · simp only [if_neg same]
        exact replaceWith path content _
  | error fault =>
      cases fault with
      | notFound => exact replaceWith path content _
      | _ => exact .pure _

theorem copyIfNewer (source copy : String) :
    CarriesOut (Storage.copyIfNewer source copy) (Storage.copyIfNewer source copy : Pass _) := by
  refine (modifiedAt source).bind fun answer => ?_
  cases answer with
  | error fault =>
      cases fault with
      | notFound => exact .pure _
      | _ => exact .pure _
  | ok sourceTime =>
      refine (modifiedAt copy).bind fun copyTime => ?_
      cases stale : isStale sourceTime copyTime with
      | false => exact .pure _
      | true =>
          refine (contentOf source).bind fun answer => ?_
          cases answer with
          | error fault => exact .pure _
          | ok content => exact replaceWith copy content _

theorem emit (path text : String) :
    CarriesOut (Generation.emit path text) (Generation.emit path text : Pass _) := by
  refine (writeIfChanged path text.toUTF8).bind fun answer => ?_
  cases answer with
  | error e => exact .pure _
  | ok outcome => cases outcome <;> exact (record _).bind fun _ => .pure _

theorem copyFlashMap (directory : String) (flashMap : Option String) :
    CarriesOut (Generation.copyFlashMap directory flashMap)
      (Generation.copyFlashMap directory flashMap : Pass _) := by
  cases flashMap with
  | none => exact .pure _
  | some source =>
      refine (copyIfNewer source _).bind fun answer => ?_
      cases answer <;> exact .pure _

theorem emitRendering (v : View) (directory : String) (rendering : Rendering) :
    CarriesOut (Generation.emitRendering v directory rendering)
      (Generation.emitRendering v directory rendering : Pass _) := by
  refine (emit _ _).bind fun first => ?_
  cases first with
  | error e => exact .pure _
  | ok header =>
      refine (emit _ _).bind fun second => ?_
      cases second <;> exact .pure _

/-- Generation on a file tree is the pass of generation, carried out in one go. -/
theorem generate (ws : Workspace) (config : Config) (v : View) (directory : String)
    (fragments : PcdFragments) :
    CarriesOut (Generation.generate ws config v directory fragments)
      (Generation.generate ws config v directory fragments : Pass _) := by
  refine (recordAll _).bind fun _ => ?_
  cases prepare ws config v fragments with
  | error e => exact .pure _
  | ok prepared =>
      refine (makeDirectories directory).bind fun made => ?_
      cases made with
      | error fault => exact .pure _
      | ok _ =>
          refine (copyFlashMap directory prepared.2).bind fun copied => ?_
          cases copied with
          | error e => exact .pure _
          | ok _ => exact emitRendering v directory prepared.1

end CarriesOut

end Pass

end FirmwareGlue

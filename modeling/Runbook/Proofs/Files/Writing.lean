import Mathlib.Data.List.Basic
import Runbook.Files.Tree
import Runbook.Proofs.Files.Paths

/-! # Writing files

Writing a file changes what is at one place and nothing else: every path leads to where it
led before, and what is held at other places stays the same. Paths cannot tell whether
there is a file or nothing at their end, so it does not matter whether a file is created or
written over.
-/

namespace Runbook.Files

/-! ## What is seen at a place -/

/-- What is at a place. Paths end where there is a file, and also where there is nothing. -/
inductive Seen
  | plain (content : Option ByteArray)
  | link (target : String)
  | directory
  | closed

namespace Seen

def ofNode? : Option Node → Seen
  | none => .plain none
  | some (.file content) => .plain (some content)
  | some (.link target) => .link target
  | some (.directory _) => .directory
  | some .closed => .closed

/-- What is seen without looking into files. -/
inductive Outline
  | plain
  | link (target : String)
  | directory
  | closed
  deriving DecidableEq

def outline : Seen → Outline
  | .plain _ => .plain
  | .link target => .link target
  | .directory => .directory
  | .closed => .closed

def content? : Seen → Option ByteArray
  | .plain content => content
  | _ => none

end Seen

namespace Node

def seen (root : Node) (place : List String) : Seen := .ofNode? (root.get? place)

/-- Two trees have the same directories and links. -/
def Alike (root later : Node) : Prop :=
  ∀ place, (later.seen place).outline = (root.seen place).outline

end Node

/-! ## Writing to a tree -/

theorem Entries.get?_set (entries : Entries) (name : String) (node : Node) (other : String) :
    (entries.set name node).get? other = if name = other then some node else entries.get? other := by
  fun_induction set entries name node with
  | case1 => rfl
  | case2 first rest name node => grind [Entries.get?]
  | case3 first old rest name node different induction => grind [Entries.get?]

namespace Node

theorem get?_append (root : Node) (front back : List String) :
    root.get? (front ++ back) = (root.get? front).bind fun node => node.get? back := by
  fun_induction get? root front with
  | case1 node => rfl
  | case2 entries name rest induction =>
      rw [List.cons_append, get?]
      cases entries.get? name with
      | none => rfl
      | some node => exact induction node
  | case3 node name rest other => cases node <;> simp_all [get?]

theorem seen_cons (entries : Entries) (name : String) (rest : List String) :
    (directory entries).seen (name :: rest) =
      (entries.get? name).elim (.plain none) fun node => node.seen rest := by
  rw [seen, get?]
  cases entries.get? name with
  | none => rfl
  | some node => rfl

/-- There is nothing below the end of a path. -/
theorem seen_below {node : Node} (plain : (node.seen []).outline = .plain) (name : String)
    (rest : List String) : node.seen (name :: rest) = .plain none := by
  cases node with
  | file => rfl
  | link => cases plain
  | directory => cases plain
  | closed => cases plain

/-- A written file changes what is at its place, if anything. -/
theorem seen_put {root : Node} {place : List String} {content : ByteArray}
    (plain : (root.seen place).outline = .plain) (other : List String) :
    (root.put place (.file content)).seen other = root.seen other ∨
      other = place ∧ (root.put place (.file content)).seen other = .plain (some content) := by
  unfold put
  fun_induction update (fun _ => some (Node.file content)) root place generalizing other with
  | case1 node =>
      cases other with
      | nil => exact .inr ⟨rfl, rfl⟩
      | cons name rest => exact .inl (seen_below plain name rest).symm
  | case2 entries name node written =>
      cases written
      cases other with
      | nil => exact .inl rfl
      | cons first rest =>
          rw [seen_cons, seen_cons, Entries.get?_set]
          by_cases same : name = first
          · subst same
            rw [if_pos rfl, Option.elim_some]
            cases rest with
            | nil => exact .inr ⟨rfl, rfl⟩
            | cons next rest =>
                rw [seen_cons] at plain
                refine .inl ?_
                cases found : entries.get? name with
                | none => rfl
                | some old =>
                    rw [found] at plain
                    exact (seen_below plain next rest).symm
          · exact .inl (by rw [if_neg same])
  | case3 entries name kept => cases kept
  | case4 entries name place deeper node found induction =>
      cases other with
      | nil => exact .inl rfl
      | cons first rest =>
          rw [seen_cons, seen_cons, Entries.get?_set]
          by_cases same : name = first
          · subst same
            rw [seen_cons, found] at plain
            rw [if_pos rfl, found]
            rcases induction plain rest with before | ⟨rfl, written⟩
            · exact .inl before
            · exact .inr ⟨rfl, written⟩
          · exact .inl (by rw [if_neg same])
  | case5 entries name place deeper missing => exact .inl rfl
  | case6 place node => exact .inl rfl

/-- Where a file is written it is found, if the directory exists that it is to be in. -/
theorem get?_put {root node : Node} {place : List String}
    (housed : ∀ front name, place = front ++ [name] →
      ∃ entries, root.get? front = some (.directory entries)) :
    (root.put place node).get? place = some node := by
  unfold put
  fun_induction update (fun _ => some node) root place with
  | case1 root => rfl
  | case2 entries name written same =>
      cases same
      simp [get?, Entries.get?_set]
  | case3 entries name kept => cases kept
  | case4 entries name place deeper inner found induction =>
      simp only [get?, Entries.get?_set, ↓reduceIte, Option.bind_some]
      refine induction fun front last same => ?_
      rcases housed (name :: front) last (by rw [same, List.cons_append]) with ⟨held, there⟩
      rw [get?, found] at there
      exact ⟨held, there⟩
  | case5 entries name place deeper missing =>
      rcases List.eq_nil_or_concat place with rfl | ⟨front, last, rfl⟩
      · exact absurd rfl deeper
      · rcases housed (name :: front) last (by simp) with ⟨held, there⟩
        simp [get?, missing] at there
  | case6 place root nonempty single longer =>
      rcases List.eq_nil_or_concat place with rfl | ⟨front, last, rfl⟩
      · exact absurd rfl nonempty
      · rcases housed front last (by simp) with ⟨held, there⟩
        cases root with
        | directory entries => cases front <;> exact (longer _ _ _ rfl rfl).elim
        | file | link | closed => cases front <;> cases there

end Node

/-! ## Following paths -/

variable {root later : Node}

/-- Where a path leads, if anywhere. -/
def names? (result : Except Fault Place) : Option (List String) :=
  result.toOption.map Place.names

/-- What a path leads to is what is at the end of it, and lies in a directory. -/
def IsFound (root : Node) (place : Place) : Prop :=
  place.node = root.get? place.names ∧ ∀ front name, place.names = front ++ [name] →
    ∃ entries, root.get? front = some (.directory entries)

theorem exists_directory_of_get? {front : List String} {name : String} {node : Node}
    (found : root.get? (front ++ [name]) = some node) :
    ∃ entries, root.get? front = some (.directory entries) ∧ entries.get? name = some node := by
  rw [Node.get?_append] at found
  rcases Option.bind_eq_some_iff.mp found with ⟨parent, there, found⟩
  cases parent with
  | directory entries =>
      refine ⟨entries, there, ?_⟩
      simpa [Node.get?] using found
  | file | link | closed => cases found

theorem get?_of_entries {here : List String} {entries : Entries} {name : String}
    (there : root.get? here.reverse = some (.directory entries)) :
    root.get? (name :: here).reverse = entries.get? name := by
  rw [List.reverse_cons, Node.get?_append, there, Option.bind_some, Node.get?]
  cases entries.get? name with
  | none => rfl
  | some node => rfl

theorem isFound_of_get? {names : List String} {node : Node} (there : root.get? names = some node) :
    IsFound root ⟨names, some node⟩ := by
  refine ⟨there.symm, fun front name same => ?_⟩
  subst same
  rcases exists_directory_of_get? there with ⟨entries, parent, -⟩
  exact ⟨entries, parent⟩

theorem isFound_of_entries {here : List String} {entries : Entries} {name : String}
    (there : root.get? here.reverse = some (.directory entries)) :
    IsFound root ⟨(name :: here).reverse, entries.get? name⟩ := by
  refine ⟨(get?_of_entries there).symm, fun front last same => ?_⟩
  rw [List.reverse_cons] at same
  rcases List.append_inj' same rfl with ⟨rfl, -⟩
  exact ⟨entries, there⟩

section FollowNames

variable {final : Bool} {jump other : List String → Bool → List String → Except Fault Place}

theorem isFound_of_followNames {here names : List String} {place : Place}
    (jumps : ∀ here absolute names place, root.get? here.reverse ≠ none →
      jump here absolute names = .ok place → IsFound root place)
    (starts : names ≠ [] ∨ root.get? here.reverse ≠ none)
    (ended : followNames root final jump here names = .ok place) : IsFound root place := by
  fun_induction followNames root final jump here names with
  | case1 here =>
      cases ended
      rcases Option.ne_none_iff_exists'.mp (starts.resolve_left fun absurd => absurd rfl) with
        ⟨node, there⟩
      rw [there]
      exact isFound_of_get? there
  | case3 here name rest entries there trivial induction =>
      exact induction (.inr (by simp [there])) ended
  | case4 here name rest entries there _ _ induction =>
      refine induction (.inr ?_) ended
      cases here with
      | nil => simp [Node.get?]
      | cons last before =>
          rw [List.reverse_cons] at there
          rcases exists_directory_of_get? there with ⟨parent, there, -⟩
          simp [there]
  | case6 here name rest entries there _ _ _ target linked =>
      cases ended
      exact linked ▸ isFound_of_entries there
  | case8 here name rest entries there =>
      exact jumps _ _ _ _ (by simp [there]) ended
  | case9 here name rest entries there _ _ _ node _ found induction =>
      refine induction (.inr ?_) ended
      rw [get?_of_entries there, found]
      exact Option.some_ne_none node
  | case10 here name rest entries there _ _ _ missing =>
      cases ended
      exact missing ▸ isFound_of_entries there
  | case12 here name rest there empty induction =>
      exact induction (.inr (by simp [there])) ended
  | case2 | case5 | case7 | case11 | case13 | case14 => cases ended

/-- A path ends where there is no directory and no link. -/
theorem names?_of_plain {here names : List String}
    (plain : (root.seen here.reverse).outline = .plain) :
    names? (followNames root final jump here names) =
      if names.isEmpty then some here.reverse else none := by
  cases names with
  | nil => rfl
  | cons name rest =>
      rw [Node.seen] at plain
      rw [followNames]
      cases there : root.get? here.reverse with
      | none => rfl
      | some node =>
          rw [there] at plain
          cases node with
          | file => rfl
          | link | directory | closed => cases plain

/-- How a path goes on from a directory is seen at the next name. -/
theorem names?_of_directory {here : List String} {entries : Entries} {name : String}
    (there : root.get? here.reverse = some (.directory entries))
    (proper : Path.isTrivial name = false) (down : (name == "..") = false)
    (short : ¬nameLimit < name.utf8ByteSize) (rest : List String) :
    names? (followNames root final jump here (name :: rest)) =
      match (root.seen (name :: here).reverse).outline with
      | .plain => if rest.isEmpty then some (name :: here).reverse else none
      | .link target =>
          if rest.isEmpty && !final then some (name :: here).reverse
          else if target == "" then none
          else names? (jump here (Path.isAbsolute target) (Path.names target ++ rest))
      | .directory | .closed => names? (followNames root final jump (name :: here) rest) := by
  have seen : root.seen (name :: here).reverse = .ofNode? (entries.get? name) := by
    rw [Node.seen, get?_of_entries there]
  rw [followNames, there, seen]
  simp only [proper, down, Bool.false_eq_true, ↓reduceIte, short]
  cases found : entries.get? name with
  | none =>
      simp only [Seen.ofNode?, Seen.outline]
      split <;> rfl
  | some node =>
      cases node with
      | file content =>
          simp only [Seen.ofNode?, Seen.outline]
          apply names?_of_plain
          rw [seen, found]
          rfl
      | link target =>
          simp only [Seen.ofNode?, Seen.outline]
          split
          · rfl
          · split <;> rfl
      | directory inner => rfl
      | closed => rfl

theorem exists_directory_of_outline {place : List String}
    (outline : (root.seen place).outline = .directory) :
    ∃ entries, root.get? place = some (.directory entries) := by
  rw [Node.seen] at outline
  cases there : root.get? place with
  | none =>
      rw [there] at outline
      cases outline
  | some node =>
      cases node with
      | directory entries => exact ⟨entries, rfl⟩
      | file | link | closed =>
          rw [there] at outline
          cases outline

theorem names?_of_link {here : List String} {target name : String} {rest : List String}
    (linked : (root.seen here.reverse).outline = .link target) :
    names? (followNames root final jump here (name :: rest)) = none := by
  rw [Node.seen] at linked
  rw [followNames]
  cases there : root.get? here.reverse with
  | none => rfl
  | some node =>
      cases node with
      | file | link => rfl
      | directory | closed =>
          rw [there] at linked
          cases linked

/-- From a closed directory a path leads nowhere, unless it ends there in slashes. -/
theorem names?_of_closed {here : List String} {name : String} {rest : List String}
    (closed : (root.seen here.reverse).outline = .closed) :
    names? (followNames root final jump here (name :: rest)) =
      if name = "" then names? (followNames root final jump here rest) else none := by
  rw [Node.seen] at closed
  rw [followNames]
  cases there : root.get? here.reverse with
  | none =>
      rw [there] at closed
      cases closed
  | some node =>
      cases node with
      | closed =>
          dsimp only
          split <;> simp_all [names?, Except.toOption]
      | file | link | directory =>
          rw [there] at closed
          cases closed

/-- Where paths lead is the same in trees with the same directories and links. -/
theorem names?_followNames (alike : root.Alike later)
    (jumps : ∀ here absolute names,
      names? (jump here absolute names) = names? (other here absolute names))
    (here names : List String) :
    names? (followNames root final jump here names) =
      names? (followNames later final other here names) := by
  induction names generalizing here with
  | nil => rfl
  | cons name rest induction =>
      have same := alike here.reverse
      cases outline : (root.seen here.reverse).outline with
      | plain =>
          rw [outline] at same
          rw [names?_of_plain outline, names?_of_plain same]
      | link target =>
          rw [outline] at same
          rw [names?_of_link outline, names?_of_link same]
      | closed =>
          rw [outline] at same
          rw [names?_of_closed outline, names?_of_closed same, induction here]
      | directory =>
          rw [outline] at same
          rcases exists_directory_of_outline outline with ⟨entries, there⟩
          rcases exists_directory_of_outline same with ⟨held, thereLater⟩
          by_cases trivial : Path.isTrivial name
          · rw [followNames, followNames, there, thereLater]
            simpa only [trivial, ↓reduceIte] using induction here
          by_cases up : name == ".."
          · rw [followNames, followNames, there, thereLater]
            simpa [trivial, up] using induction here.tail
          by_cases long : nameLimit < name.utf8ByteSize
          · rw [followNames, followNames, there, thereLater]
            simp [trivial, up, long, names?]
          have proper := (Bool.not_eq_true _).mp trivial
          have down := (Bool.not_eq_true _).mp up
          rw [names?_of_directory there proper down long,
            names?_of_directory thereLater proper down long, alike (name :: here).reverse]
          cases (root.seen (name :: here).reverse).outline with
          | plain => rfl
          | link target => simp only [jumps]
          | directory | closed => exact induction (name :: here)

end FollowNames

theorem isFound_of_follow {final : Bool} (links : Nat) {here names : List String} {place : Place}
    (starts : names ≠ [] ∨ root.get? here.reverse ≠ none)
    (ended : follow root final links here names = .ok place) : IsFound root place := by
  induction links generalizing here names place with
  | zero => exact isFound_of_followNames (fun _ _ _ _ _ failed => by cases failed) starts ended
  | succ links induction =>
      refine isFound_of_followNames (fun here absolute names place there jumped => ?_) starts ended
      refine induction (.inr ?_) jumped
      cases absolute with
      | true => simp [Node.get?]
      | false => exact there

theorem names?_follow {final : Bool} (alike : root.Alike later) (links : Nat)
    (here names : List String) :
    names? (follow root final links here names) = names? (follow later final links here names) := by
  induction links generalizing here names with
  | zero => exact names?_followNames alike (fun _ _ _ => rfl) here names
  | succ links induction =>
      exact names?_followNames alike (fun here absolute names => induction _ names) here names

namespace FileSystem

variable {files after : FileSystem} {path : String}

/-! ## Files on a machine -/

/-- The place that a path leads to. -/
def place? (files : FileSystem) (path : String) : Option (List String) :=
  if path.toList.contains '\x00' then none else names? (files.locate true path)

/-- The content of the file at a place, if there is one. -/
def contentAt? (files : FileSystem) (place : List String) : Option ByteArray :=
  (files.root.seen place).content?

/-- The content of the file that a path leads to, if it leads to one. -/
def content? (files : FileSystem) (path : String) : Option ByteArray := (files.read path).toOption

/-- Two machines have the same directories and links. -/
def Alike (files after : FileSystem) : Prop :=
  files.root.Alike after.root ∧ after.workingDirectory = files.workingDirectory

/-- A path at which a file can be written. -/
def Writable (files : FileSystem) (path : String) : Prop :=
  ∃ place, files.place? path = some place ∧ (files.root.seen place).outline = .plain

instance decidableWritable (files : FileSystem) (path : String) :
    Decidable (files.Writable path) :=
  match led : files.place? path with
  | some place => decidable_of_iff ((files.root.seen place).outline = .plain) (by simp [Writable, led])
  | none => isFalse (by simp [Writable, led])

theorem Alike.refl (files : FileSystem) : files.Alike files := ⟨fun _ => rfl, rfl⟩

theorem Alike.trans {last : FileSystem} (first : files.Alike after) (second : after.Alike last) :
    files.Alike last :=
  ⟨fun place => (second.1 place).trans (first.1 place), second.2.trans first.2⟩

theorem Alike.place? (alike : files.Alike after) (path : String) :
    after.place? path = files.place? path := by
  unfold FileSystem.place? locate
  rw [alike.2]
  split
  · rfl
  split
  · rfl
  split
  · rfl
  exact (names?_follow alike.1 linkLimit _ _).symm

theorem Alike.writable_iff (alike : files.Alike after) (path : String) :
    after.Writable path ↔ files.Writable path := by
  simp only [Writable, alike.place?, alike.1 _]

theorem isFound_of_locate {place : Place} (ended : files.locate true path = .ok place) :
    IsFound files.root place := by
  unfold locate at ended
  split at ended
  · cases ended
  split at ended
  · cases ended
  exact isFound_of_follow linkLimit (.inl (Path.names_ne_nil path)) ended

theorem place?_eq_some_iff {place : List String} : files.place? path = some place ↔
    path.toList.contains '\x00' = false ∧
      files.locate true path = .ok ⟨place, files.root.get? place⟩ := by
  unfold FileSystem.place?
  by_cases null : path.toList.contains '\x00'
  · simp only [null, ↓reduceIte, reduceCtorEq, false_and]
  simp only [null, ↓reduceIte, Bool.false_eq_true, true_and]
  cases located : files.locate true path with
  | error fault => simp [names?, Except.toOption]
  | ok found =>
      rcases found with ⟨names, node⟩
      have same : node = files.root.get? names := (isFound_of_locate located).1
      simp only [names?, Except.toOption, Option.map_some, Option.some.injEq, Except.ok.injEq,
        Place.mk.injEq, iff_self_and]
      rintro rfl
      exact same

theorem content?_eq (files : FileSystem) (path : String) :
    files.content? path = (files.place? path).bind files.contentAt? := by
  cases led : files.place? path with
  | some place =>
      rcases place?_eq_some_iff.mp led with ⟨proper, located⟩
      simp only [content?, read, look, proper, Bool.false_eq_true, ↓reduceIte, located,
        Option.bind_some, contentAt?, Node.seen]
      cases files.root.get? place with
      | none => rfl
      | some node => cases node <;> rfl
  | none =>
      unfold FileSystem.place? at led
      unfold content? read look
      by_cases null : path.toList.contains '\x00'
      · rw [if_pos null]
        rfl
      rw [if_neg null] at led ⊢
      cases located : files.locate true path with
      | error fault => rfl
      | ok found =>
          rw [located] at led
          cases led

/-- What is held at the place of a file once it has been written to. -/
def contentAfter (files : FileSystem) (place : List String) (append : Bool) (bytes : ByteArray) :
    ByteArray :=
  (if append then (files.contentAt? place).getD .empty else .empty) ++ bytes

section Write

variable {place : List String} {bytes : ByteArray} {append : Bool}

theorem write_of_place (led : files.place? path = some place)
    (plain : (files.root.seen place).outline = .plain) :
    files.write path bytes append = .ok { files with
      root := files.root.put place (.file (files.contentAfter place append bytes)) } := by
  rcases place?_eq_some_iff.mp led with ⟨proper, located⟩
  unfold write contentAfter contentAt?
  rw [proper, located, if_neg Bool.false_ne_true]
  unfold Node.seen at plain ⊢
  generalize files.root.get? place = there at plain ⊢
  cases there with
  | none => simp [Seen.ofNode?, Seen.content?]
  | some node =>
      cases node with
      | file old => cases append <;> simp [Seen.ofNode?, Seen.content?]
      | link | directory | closed => cases plain

theorem writable_of_write (written : files.write path bytes append = .ok after) :
    files.Writable path := by
  unfold write at written
  split at written
  · cases written
  rename_i proper
  have proper := (Bool.not_eq_true _).mp proper
  split at written
  · rename_i names old located
    have same : some (.file old) = files.root.get? names := (isFound_of_locate located).1
    refine ⟨names, place?_eq_some_iff.mpr ⟨proper, located.trans ?_⟩, ?_⟩
    · rw [same]
    · rw [Node.seen, ← same]
      rfl
  · cases written
  · rename_i names located
    have same : none = files.root.get? names := (isFound_of_locate located).1
    refine ⟨names, place?_eq_some_iff.mpr ⟨proper, located.trans ?_⟩, ?_⟩
    · rw [same]
    · rw [Node.seen, ← same]
      rfl
  · split at written <;> cases written

theorem exists_write (writable : files.Writable path) (bytes : ByteArray) (append : Bool) :
    ∃ after, files.write path bytes append = .ok after := by
  rcases writable with ⟨place, led, plain⟩
  exact ⟨_, write_of_place led plain⟩

/-- Writing changes the file that the path leads to. -/
theorem contentAt?_write (written : files.write path bytes append = .ok after)
    (led : files.place? path = some place) :
    after.contentAt? place = some (files.contentAfter place append bytes) := by
  rcases writable_of_write written with ⟨again, ledAgain, plain⟩
  cases led.symm.trans ledAgain
  cases written.symm.trans (write_of_place led plain)
  have found := isFound_of_locate (place?_eq_some_iff.mp led).2
  rw [contentAt?, Node.seen, Node.get?_put found.2]
  rfl

/-- Writing changes no other file. -/
theorem contentAt?_write_of_ne (written : files.write path bytes append = .ok after)
    (other : files.place? path ≠ some place) : after.contentAt? place = files.contentAt? place := by
  rcases writable_of_write written with ⟨target, led, plain⟩
  cases written.symm.trans (write_of_place led plain)
  rcases Node.seen_put plain place with same | ⟨rfl, -⟩
  · rw [contentAt?, same, contentAt?]
  · exact absurd led other

/-- Writing changes no directory and no link. -/
theorem alike_of_write (written : files.write path bytes append = .ok after) :
    files.Alike after := by
  rcases writable_of_write written with ⟨target, led, plain⟩
  cases written.symm.trans (write_of_place led plain)
  refine ⟨fun place => ?_, rfl⟩
  rcases Node.seen_put plain place with same | ⟨rfl, written⟩
  · rw [same]
  · rw [written, plain]
    rfl

end Write

end FileSystem

end Runbook.Files

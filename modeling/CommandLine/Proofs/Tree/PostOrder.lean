import CommandLine.Command.Reader

/-!
# The order in which trees are converted

The nodes and tokens of a tree are converted one after the other, children before their parent and
from left to right. A tree fails to convert with the failure of the first of them that fails
(`Command.pieceOf_eq_error_iff`).
-/

namespace CommandLine

namespace Tree

mutual

/-- The nodes and tokens of a tree, children before their parent, from left to right. -/
def postorder : Tree → List Tree
  | leaf token => [leaf token]
  | detached symbol text => [detached symbol text]
  | node label children => postorderAll children ++ [node label children]

/-- The nodes and tokens of some trees, tree after tree. -/
def postorderAll : List Tree → List Tree
  | [] => []
  | t :: ts => postorder t ++ postorderAll ts

end

end Tree

namespace Command
open CommandLine.Tree (Helpers convert convertAll convertLabelled convertNode convertToken
  conversion? postorder postorderAll)

variable {helpers : Helpers} {text : String}

/-- What some trees within a command are converted to. -/
def piecesOf (helpers : Helpers) (text : String) (ts : List Tree) :
    Except Failure (List Tree.Piece) :=
  (convertAll helpers text ts).mapError Obstacle.toFailure

/-- A tree that is converted to something. -/
def Converts (helpers : Helpers) (text : String) (t : Tree) : Prop :=
  ∃ piece, pieceOf helpers text t = .ok piece

/-- How a node or a token fails by itself, when all that is below it has been converted. A node with
an unknown label always does, unless there is a helper of that name. -/
inductive FailsHere (helpers : Helpers) (text : String) : Tree → Failure → Prop
  | token {token : Token} {obstacle : Obstacle} :
      convertToken helpers text token.symbol (.token token) = .error obstacle →
      FailsHere helpers text (.leaf token) obstacle.toFailure
  | detached {symbol : Symbol} {s : String} {obstacle : Obstacle} :
      convertToken helpers text symbol (.detached symbol s) = .error obstacle →
      FailsHere helpers text (.detached symbol s) obstacle.toFailure
  | unknown {label : Label} {children : List Tree} {pieces : List Tree.Piece} :
      piecesOf helpers text children = .ok pieces → conversion? label = none →
      helpers.node? label.name = none →
      FailsHere helpers text (.node label children) (.tree (.noConversion label))
  | helper {label : Label} {children : List Tree} {pieces : List Tree.Piece}
      {helper : List Tree.Piece → Except String Tree.Piece} {message : String} :
      piecesOf helpers text children = .ok pieces → conversion? label = none →
      helpers.node? label.name = some helper → helper pieces = .error message →
      FailsHere helpers text (.node label children)
        (.tree (.unconvertible label (.foreign message)))
  | fault {label : Label} {children : List Tree} {pieces : List Tree.Piece} {rule : Rule}
      {fault : NodeFault} :
      piecesOf helpers text children = .ok pieces → conversion? label = some rule →
      convertNode text rule pieces = .error fault →
      FailsHere helpers text (.node label children) (Obstacle.atNode label fault).toFailure

/-- The first of some nodes and tokens that is not converted fails by itself, and how. -/
def FirstFails (helpers : Helpers) (text : String) (trees : List Tree) (failure : Failure) :
    Prop :=
  ∃ before n after, trees = before ++ n :: after ∧ (∀ m ∈ before, Converts helpers text m) ∧
    FailsHere helpers text n failure

/-! ## One step of the conversion -/

section
variable {ε δ α : Type} {f : ε → δ} {result : Except ε α}

theorem mapError_eq_ok_iff {a : α} : result.mapError f = .ok a ↔ result = .ok a := by
  cases result with
  | error e => exact ⟨nofun, nofun⟩
  | ok b => constructor <;> exact fun same => congrArg _ (Except.ok.inj same)

theorem mapError_eq_error_iff {d : δ} :
    result.mapError f = .error d ↔ ∃ e, result = .error e ∧ f e = d := by
  cases result with
  | error e =>
    refine ⟨fun same => ⟨e, rfl, Except.error.inj same⟩, ?_⟩
    rintro ⟨e', same, rfl⟩
    rw [Except.error.inj same]
    rfl
  | ok b => exact ⟨nofun, nofun⟩

end

theorem pieceOf_leaf (token : Token) :
    pieceOf helpers text (.leaf token) =
      (convertToken helpers text token.symbol (.token token)).mapError Obstacle.toFailure := by
  rw [pieceOf, convert]

theorem pieceOf_detached (symbol : Symbol) (s : String) :
    pieceOf helpers text (.detached symbol s) =
      (convertToken helpers text symbol (.detached symbol s)).mapError Obstacle.toFailure := by
  rw [pieceOf, convert]

theorem pieceOf_of_error {label : Label} {children : List Tree} {failure : Failure}
    (h : piecesOf helpers text children = .error failure) :
    pieceOf helpers text (.node label children) = .error failure := by
  obtain ⟨obstacle, below, rfl⟩ := mapError_eq_error_iff.1 h
  rw [pieceOf, convert, below]
  rfl

theorem pieceOf_of_ok {label : Label} {children : List Tree} {pieces : List Tree.Piece}
    (h : piecesOf helpers text children = .ok pieces) :
    pieceOf helpers text (.node label children) =
      (convertLabelled helpers text label pieces).mapError Obstacle.toFailure := by
  rw [pieceOf, convert, mapError_eq_ok_iff.1 h]

theorem piecesOf_cons (t : Tree) (ts : List Tree) :
    piecesOf helpers text (t :: ts) =
      (pieceOf helpers text t).bind fun piece => (piecesOf helpers text ts).map (piece :: ·) := by
  rw [piecesOf, convertAll, pieceOf, piecesOf]
  cases convert helpers text t with
  | error obstacle => rfl
  | ok piece => cases convertAll helpers text ts <;> rfl

theorem converts_of_piecesOf_cons {t : Tree} {ts : List Tree} {pieces : List Tree.Piece}
    (said : piecesOf helpers text (t :: ts) = .ok pieces) :
    Converts helpers text t ∧ ∃ more, piecesOf helpers text ts = .ok more := by
  rw [piecesOf_cons] at said
  cases first : pieceOf helpers text t with
  | error failure => simp [first, Except.bind] at said
  | ok piece =>
    cases others : piecesOf helpers text ts with
    | error failure => simp [first, others, Except.bind, Except.map] at said
    | ok more => exact ⟨⟨piece, first⟩, more, rfl⟩

theorem piecesOf_cons_eq_error_iff {t : Tree} {ts : List Tree} {failure : Failure} :
    piecesOf helpers text (t :: ts) = .error failure ↔
      pieceOf helpers text t = .error failure ∨
        Converts helpers text t ∧ piecesOf helpers text ts = .error failure := by
  rw [piecesOf_cons, Converts]
  cases pieceOf helpers text t with
  | error failure' => simp [Except.bind]
  | ok piece => cases piecesOf helpers text ts <;> simp [Except.bind, Except.map]

/-- A node fails by itself exactly as the conversion by its label does, if all that is below it has
been converted. -/
theorem failsHere_node_iff {label : Label} {children : List Tree} {pieces : List Tree.Piece}
    {failure : Failure} (below : piecesOf helpers text children = .ok pieces) :
    FailsHere helpers text (.node label children) failure ↔
      (convertLabelled helpers text label pieces).mapError Obstacle.toFailure =
        .error failure := by
  constructor
  · intro fails
    cases fails with
    | unknown below' unknown missing =>
      rw [convertLabelled, unknown, missing]
      rfl
    | helper below' unknown found refused =>
      obtain rfl := Except.ok.inj (below'.symm.trans below)
      rw [convertLabelled, unknown, found]
      show (Tree.answer label _).mapError _ = _
      rw [refused]
      rfl
    | fault below' known faulty =>
      obtain rfl := Except.ok.inj (below'.symm.trans below)
      rw [convertLabelled, known]
      show ((convertNode text _ _).mapError _).mapError _ = _
      rw [faulty]
      rfl
  · intro said
    obtain ⟨obstacle, stuck, rfl⟩ := mapError_eq_error_iff.1 said
    unfold convertLabelled at stuck
    cases known : conversion? label with
    | some rule =>
      rw [known] at stuck
      obtain ⟨fault, faulty, rfl⟩ := mapError_eq_error_iff.1 stuck
      exact .fault below known faulty
    | none =>
      cases found : helpers.node? label.name with
      | none =>
        obtain rfl : Obstacle.noConversion label = obstacle := by simpa [known, found] using stuck
        exact .unknown below known found
      | some helper =>
        rw [known, found] at stuck
        obtain ⟨message, refused, rfl⟩ := mapError_eq_error_iff.1 stuck
        exact .helper below known found refused

/-- A node with an unknown label fails for that exactly if there is no helper of its name. -/
theorem failsHere_noConversion_iff {label : Label} {children : List Tree}
    {pieces : List Tree.Piece} (below : piecesOf helpers text children = .ok pieces)
    (unknown : conversion? label = none) :
    FailsHere helpers text (.node label children) (.tree (.noConversion label)) ↔
      helpers.node? label.name = none := by
  constructor
  · intro fails
    rw [failsHere_node_iff below, convertLabelled, unknown] at fails
    cases found : helpers.node? label.name with
    | none => rfl
    | some helper =>
      rw [found] at fails
      obtain ⟨obstacle, stuck, told⟩ := mapError_eq_error_iff.1 fails
      obtain ⟨message, -, rfl⟩ := mapError_eq_error_iff.1 stuck
      simp [Obstacle.toFailure] at told
  · exact .unknown below unknown

/-- What fails by itself is not converted. -/
theorem FailsHere.pieceOf_eq {t : Tree} {failure : Failure} (h : FailsHere helpers text t failure) :
    pieceOf helpers text t = .error failure := by
  cases t with
  | leaf token =>
    cases h with
    | token fails => rw [pieceOf_leaf, fails]; rfl
  | detached symbol s =>
    cases h with
    | detached fails => rw [pieceOf_detached, fails]; rfl
  | node label children =>
    obtain ⟨pieces, below⟩ : ∃ pieces, piecesOf helpers text children = .ok pieces := by
      cases h with
      | unknown below => exact ⟨_, below⟩
      | helper below => exact ⟨_, below⟩
      | fault below => exact ⟨_, below⟩
    rw [pieceOf_of_ok below]
    exact (failsHere_node_iff below).1 h

theorem FailsHere.not_converts {t : Tree} {failure : Failure}
    (h : FailsHere helpers text t failure) : ¬ Converts helpers text t := by
  rintro ⟨piece, said⟩
  rw [h.pieceOf_eq] at said
  cases said

/-! ## The first failure among some nodes -/

namespace FirstFails

variable {failure failure' : Failure} {t : Tree} {ts us : List Tree}

theorem append_right (h : FirstFails helpers text ts failure) :
    FirstFails helpers text (ts ++ us) failure := by
  obtain ⟨before, n, after, rfl, converts, fails⟩ := h
  exact ⟨before, n, after ++ us, by simp, converts, fails⟩

theorem append_left (converts : ∀ m ∈ ts, Converts helpers text m)
    (h : FirstFails helpers text us failure) :
    FirstFails helpers text (ts ++ us) failure := by
  obtain ⟨before, n, after, rfl, converts', fails⟩ := h
  exact ⟨ts ++ before, n, after, by simp, List.forall_mem_append.2 ⟨converts, converts'⟩, fails⟩

theorem cons_iff : FirstFails helpers text (t :: ts) failure ↔
    FailsHere helpers text t failure ∨
      Converts helpers text t ∧ FirstFails helpers text ts failure := by
  constructor
  · rintro ⟨before, n, after, split, converts, fails⟩
    cases before with
    | nil =>
      obtain ⟨rfl, rfl⟩ := List.cons.inj split
      exact .inl fails
    | cons m before =>
      obtain ⟨rfl, rfl⟩ := List.cons.inj split
      obtain ⟨first, others⟩ := List.forall_mem_cons.1 converts
      exact .inr ⟨first, before, n, after, rfl, others, fails⟩
  · rintro (fails | ⟨converts, fails⟩)
    · exact ⟨[], t, ts, rfl, by simp, fails⟩
    · exact (append_left (List.forall_mem_singleton.2 converts) fails :
        FirstFails helpers text ([t] ++ ts) failure)

theorem unique (h : FirstFails helpers text ts failure) (h' : FirstFails helpers text ts failure') :
    failure = failure' := by
  induction ts with
  | nil => obtain ⟨before, n, after, split, -⟩ := h; simp at split
  | cons t ts ih =>
    rcases cons_iff.1 h with fails | ⟨converts, later⟩
    · rcases cons_iff.1 h' with fails' | ⟨converts', -⟩
      · exact Except.error.inj (fails.pieceOf_eq.symm.trans fails'.pieceOf_eq)
      · exact absurd converts' fails.not_converts
    · rcases cons_iff.1 h' with fails' | ⟨-, later'⟩
      · exact absurd converts fails'.not_converts
      · exact ih later later'

theorem exists_not_converts (h : FirstFails helpers text ts failure) :
    ∃ n ∈ ts, ¬ Converts helpers text n := by
  obtain ⟨before, n, after, rfl, -, fails⟩ := h
  exact ⟨n, by simp, fails.not_converts⟩

end FirstFails

/-! ## The whole tree -/

mutual

/-- With a tree all that is in it is converted. -/
theorem converts_of_mem_postorder : ∀ {t : Tree}, Converts helpers text t →
    ∀ m ∈ postorder t, Converts helpers text m
  | .leaf token, converts => by
    rw [postorder]
    exact List.forall_mem_singleton.2 converts
  | .detached symbol s, converts => by
    rw [postorder]
    exact List.forall_mem_singleton.2 converts
  | .node label children, converts => by
    rw [postorder]
    refine List.forall_mem_append.2 ⟨?_, List.forall_mem_singleton.2 converts⟩
    cases below : piecesOf helpers text children with
    | ok pieces => exact converts_of_mem_postorderAll below
    | error failure =>
      obtain ⟨piece, said⟩ := converts
      rw [pieceOf_of_error below] at said
      cases said

theorem converts_of_mem_postorderAll : ∀ {ts : List Tree} {pieces : List Tree.Piece},
    piecesOf helpers text ts = .ok pieces → ∀ m ∈ postorderAll ts, Converts helpers text m
  | [], _, _ => by simp [postorderAll]
  | t :: ts, pieces, said => by
    obtain ⟨first, more, others⟩ := converts_of_piecesOf_cons said
    rw [postorderAll]
    exact List.forall_mem_append.2
      ⟨converts_of_mem_postorder first, converts_of_mem_postorderAll others⟩

end

mutual

/-- A tree that is not converted fails as the first thing in it that fails. -/
theorem firstFails_of_error : ∀ {t : Tree} {failure : Failure},
    pieceOf helpers text t = .error failure → FirstFails helpers text (postorder t) failure
  | .leaf token, failure, said => by
    rw [pieceOf_leaf] at said
    obtain ⟨obstacle, fails, rfl⟩ := mapError_eq_error_iff.1 said
    rw [postorder]
    exact FirstFails.cons_iff.2 (.inl (.token fails))
  | .detached symbol s, failure, said => by
    rw [pieceOf_detached] at said
    obtain ⟨obstacle, fails, rfl⟩ := mapError_eq_error_iff.1 said
    rw [postorder]
    exact FirstFails.cons_iff.2 (.inl (.detached fails))
  | .node label children, failure, said => by
    rw [postorder]
    cases below : piecesOf helpers text children with
    | error failure' =>
      obtain rfl : failure' = failure := by simpa [pieceOf_of_error below] using said
      exact (firstFails_of_errorAll below).append_right
    | ok pieces =>
      rw [pieceOf_of_ok below, ← failsHere_node_iff below] at said
      exact .append_left (converts_of_mem_postorderAll below) (FirstFails.cons_iff.2 (.inl said))

theorem firstFails_of_errorAll : ∀ {ts : List Tree} {failure : Failure},
    piecesOf helpers text ts = .error failure → FirstFails helpers text (postorderAll ts) failure
  | [], _, said => by cases said
  | t :: ts, failure, said => by
    rw [postorderAll]
    rcases piecesOf_cons_eq_error_iff.1 said with first | ⟨converts, others⟩
    · exact (firstFails_of_error first).append_right
    · exact .append_left (converts_of_mem_postorder converts) (firstFails_of_errorAll others)

end

/-- A tree fails to convert exactly as the first node or token in it that fails by itself. -/
theorem pieceOf_eq_error_iff {t : Tree} {failure : Failure} :
    pieceOf helpers text t = .error failure ↔ FirstFails helpers text (postorder t) failure := by
  refine ⟨firstFails_of_error, fun fails => ?_⟩
  cases said : pieceOf helpers text t with
  | ok piece =>
    obtain ⟨n, member, stuck⟩ := fails.exists_not_converts
    exact absurd (converts_of_mem_postorder ⟨piece, said⟩ n member) stuck
  | error failure' => rw [(firstFails_of_error said).unique fails]

end Command

end CommandLine

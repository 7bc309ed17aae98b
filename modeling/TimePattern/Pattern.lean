import TimePattern.Directive

/-!
# Patterns

A `Pattern` is a list of directives in the order in which they print and read.

* `Pattern.same`    equality, where custom directives are compared by name
* `Pattern.check`   finds a directive that cannot be read
-/

namespace TimePattern

/-- An ordered sequence of directives. -/
structure Pattern where
  directives : List Directive

/-- A directive that would have to be read but has no reading rule. This is a fault of the
    pattern, not of the text. -/
structure NoRule where
  directive : Directive

/-- The text of the diagnostic. -/
def NoRule.message (e : NoRule) : String :=
  "format token " ++ e.directive.label ++ " has no parsing rule"

namespace Pattern

/-- The pattern that prints nothing. -/
def empty : Pattern := ⟨[]⟩

instance : Inhabited Pattern := ⟨empty⟩

instance : Append Pattern := ⟨fun p q => ⟨p.directives ++ q.directives⟩⟩

/-- The number of directives. -/
def length (p : Pattern) : Nat := p.directives.length

/-- Whether there is no directive. -/
def isEmpty (p : Pattern) : Bool := p.directives.isEmpty

/-- Equality, directive by directive. -/
def same (p q : Pattern) : Bool := p.directives == q.directives

instance : BEq Pattern := ⟨same⟩

/-- Reports the first directive that cannot be read. -/
def check (p : Pattern) : Except NoRule Unit :=
  match p.directives.find? (!·.isReadable) with
  | some d => .error ⟨d⟩
  | none => .ok ()

/-- Patterns are joined by their directives. -/
@[simp] theorem directives_append (p q : Pattern) :
    (p ++ q).directives = p.directives ++ q.directives := rfl

end Pattern

end TimePattern

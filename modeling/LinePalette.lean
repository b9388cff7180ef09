import LinePalette.Main
import LinePalette.Proofs.Editor.Changes
import LinePalette.Proofs.Editor.Characters
import LinePalette.Proofs.Editor.Edits
import LinePalette.Proofs.Editor.Grammar
import LinePalette.Proofs.Editor.LineNumbers
import LinePalette.Proofs.Editor.Lookups
import LinePalette.Proofs.Editor.Options
import LinePalette.Proofs.Editor.Safety
import LinePalette.Proofs.Editor.Substitutions
import LinePalette.Proofs.Files.Writing
import LinePalette.Proofs.Highlight.Locating
import LinePalette.Proofs.Highlight.Painting
import LinePalette.Proofs.Highlight.Planning
import LinePalette.Proofs.Highlight.Wrapping
import LinePalette.Proofs.Host.Arguments
import LinePalette.Proofs.Host.Endings
import LinePalette.Proofs.Host.Frame
import LinePalette.Proofs.Host.Highlighting
import LinePalette.Proofs.Host.JsonOutput
import LinePalette.Proofs.Host.Options
import LinePalette.Proofs.Host.Positions
import LinePalette.Proofs.Host.Reopening
import LinePalette.Proofs.Host.Resuming
import LinePalette.Proofs.Host.Saving
import LinePalette.Proofs.Host.Sessions
import LinePalette.Proofs.Palette.Blanks
import LinePalette.Proofs.Palette.Escaping
import LinePalette.Proofs.Palette.Markup
import LinePalette.Proofs.Palette.Messages
import LinePalette.Proofs.Palette.Outcomes
import LinePalette.Proofs.Palette.Routing
import LinePalette.Proofs.Pattern.Scanning
import LinePalette.Proofs.Settings.Layers
import LinePalette.Proofs.Settings.Saving
import LinePalette.Proofs.Text.Blanks
import LinePalette.Proofs.Text.Encoding

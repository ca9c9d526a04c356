import SourceLint.Knowledge.Basic

/-!
# The builtin table

The symbols that checked sources may use, with the header that declares each.
A header is written as it stands between the angle brackets of an include. A
symbol that is not listed here is reported until it gets its entry.
-/

namespace SourceLint.Knowledge

/-- The builtin symbols and their headers. -/
def builtinEntries : List (String × String) :=
  [ ("std::ranges::range", "ranges"),
    ("std::ranges::forward_range", "ranges"),
    ("std::ranges::bidirectional_range", "ranges"),
    ("std::ranges::random_access_range", "ranges"),
    ("std::ranges::range_reference_t", "ranges"),
    ("std::ranges::range_value_t", "ranges"),
    ("std::ranges::distance", "ranges"),
    ("std::ranges::sort", "algorithm"),
    ("std::ranges::max_element", "ranges"),
    ("std::ranges::begin", "ranges"),
    ("std::ranges::end", "ranges"),
    ("std::ranges::single_view", "ranges"),
    ("std::ranges::common_view", "ranges"),
    ("std::ranges::view_interface", "ranges"),
    ("std::views::empty", "ranges"),
    ("std::views::single", "ranges"),
    ("std::views::transform", "ranges"),
    ("std::views::filter", "ranges"),
    ("std::views::iota", "ranges"),
    ("std::views::cartesian_product", "ranges"),
    ("std::views::take", "ranges"),
    ("std::views::drop", "ranges"),
    ("std::views::drop_while", "ranges"),
    ("std::views::split", "ranges"),
    ("std::views::common", "ranges"),
    ("std::views::reverse", "ranges"),
    ("std::views::concat", "ranges"),
    ("std::views::enumerate", "ranges"),
    ("std::views::all", "ranges"),
    ("std::same_as", "concepts"),
    ("std::floating_point", "concepts"),
    ("std::integral", "concepts"),
    ("std::unsigned_integral", "concepts"),
    ("std::regular", "concepts"),
    ("std::semiregular", "concepts"),
    ("std::is_void_v", "type_traits"),
    ("std::is_same_v", "type_traits"),
    ("std::is_convertible_v", "type_traits"),
    ("std::is_rvalue_reference_v", "type_traits"),
    ("std::remove_reference_t", "type_traits"),
    ("std::invoke_result_t", "type_traits"),
    ("std::decay_t", "type_traits"),
    ("std::numeric_limits", "limits"),
    ("std::begin", "iterator"),
    ("std::end", "iterator"),
    ("std::input_iterator", "iterator"),
    ("std::input_iterator_tag", "iterator"),
    ("std::forward_iterator", "iterator"),
    ("std::forward_iterator_tag", "iterator"),
    ("std::bidirectional_iterator", "iterator"),
    ("std::bidirectional_iterator_tag", "iterator"),
    ("std::sentinel_for", "iterator"),
    ("std::lower_bound", "algorithm"),
    ("std::reverse", "algorithm"),
    ("std::sort", "algorithm"),
    ("std::mt19937_64", "random"),
    ("std::uniform_int_distribution", "random"),
    ("std::uniform_real_distribution", "random"),
    ("std::abs", "cmath"),
    ("std::hypot", "cmath"),
    ("std::size_t", "cstddef"),
    ("std::int8_t", "cstdint"),
    ("std::int16_t", "cstdint"),
    ("std::int32_t", "cstdint"),
    ("std::int64_t", "cstdint"),
    ("std::uint8_t", "cstdint"),
    ("std::uint16_t", "cstdint"),
    ("std::uint32_t", "cstdint"),
    ("std::uint64_t", "cstdint"),
    ("std::ptrdiff_t", "cstdint"),
    ("std::uintmax_t", "cstdint"),
    ("std::float16_t", "stdfloat"),
    ("std::float32_t", "stdfloat"),
    ("std::float64_t", "stdfloat"),
    ("std::string", "string"),
    ("std::to_string", "string"),
    ("std::string_view", "string_view"),
    ("std::isalnum", "cctype"),
    ("std::formatter", "format"),
    ("std::format", "format"),
    ("std::format_to", "format"),
    ("std::format_context", "format"),
    ("std::format_parse_context", "format"),
    ("std::format_error", "format"),
    ("std::optional", "optional"),
    ("std::nullopt", "optional"),
    ("std::nullopt_t", "optional"),
    ("std::reference_wrapper", "functional"),
    ("std::ref", "functional"),
    ("std::function", "functional"),
    ("std::less", "functional"),
    ("std::make_pair", "utility"),
    ("std::pair", "utility"),
    ("std::declval", "utility"),
    ("std::forward", "utility"),
    ("std::move", "utility"),
    ("std::unreachable", "utility"),
    ("std::tuple", "tuple"),
    ("std::tuple_cat", "tuple"),
    ("std::make_tuple", "tuple"),
    ("std::tie", "tuple"),
    ("std::get", "tuple"),
    ("std::apply", "tuple"),
    ("std::variant", "variant"),
    ("std::get_if", "variant"),
    ("std::holds_alternative", "variant"),
    ("std::strong_ordering", "compare"),
    ("std::vector", "vector"),
    ("std::array", "array"),
    ("std::map", "map"),
    ("std::set", "set"),
    ("std::multiset", "set"),
    ("std::runtime_error", "stdexcept"),
    ("std::cout", "iostream"),
    ("std::ofstream", "fstream"),
    ("std::ostream", "ostream"),
    ("std::endl", "ostream"),
    ("std::istringstream", "sstream"),
    ("std::ios::binary", "ios"),
    ("boost::container::small_vector", "boost/container/small_vector.hpp"),
    ("boost::container::static_vector", "boost/container/static_vector.hpp"),
    ("boost::container::static_vector_options", "boost/container/static_vector.hpp"),
    ("boost::container::throw_on_overflow", "boost/container/options.hpp"),
    ("boost::container::inplace_alignment", "boost/container/options.hpp"),
    ("boost::filesystem::path", "boost/filesystem.hpp"),
    ("boost::filesystem::temp_directory_path", "boost/filesystem.hpp"),
    ("boost::filesystem::unique_path", "boost/filesystem.hpp"),
    ("boost::iostreams::mapped_file_source", "boost/iostreams/device/mapped_file.hpp"),
    ("boost::iostreams::mapped_file_base::readonly", "boost/iostreams/device/mapped_file.hpp"),
    ("boost::safe_numerics", "boost/safe_numerics/safe_integer.hpp"),
    ("boost::safe_numerics::safe_numerics_error", "boost/safe_numerics/safe_integer.hpp")]

/-- The builtin knowledge. -/
def builtin : Knowledge :=
  ofEntries builtinEntries

end SourceLint.Knowledge
